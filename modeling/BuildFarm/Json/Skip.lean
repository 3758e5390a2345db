import BuildFarm.Json.NumberLiteral
import BuildFarm.Json.TextLiteral

namespace BuildFarm.Json.Reader

/-- The brackets that are open, innermost first. -/
inductive Bracket
  | list
  | object
deriving DecidableEq

def colon : Reader Unit := do
  match ← next with
  | none => failAhead .endInObject
  | some g => if g = .char ':' then skip else failAhead .colonExpected

def skipKey : Reader Unit := do
  match ← next with
  | none => failAhead .endInObject
  | some g =>
    if g = .char '"' then
      skip
      skipTextRest
      colon
    else failAhead .keyExpected

def skipEntry : Bracket → Reader Unit
  | .list => Reader.pure ()
  | .object => skipKey

/-- What comes after the front of a value: the bracket that it opens, if any. -/
def skipFront : Reader (Option Bracket) := do
  match ← next with
  | none => failAhead .endInValue
  | some (.char 'n') => skip; word ['u','l','l']; return none
  | some (.char 't') => skip; word ['r','u','e']; return none
  | some (.char 'f') => skip; word ['a','l','s','e']; return none
  | some (.char '-') => skip; skipNumeral; return none
  | some (.char '"') => skip; skipTextRest; return none
  | some (.char '[') => skip; return some .list
  | some (.char '{') => skip; return some .object
  | some g =>
    if (glyphDigit? g).isSome then
      skipNumeral
      return none
    else failAhead .valueExpected

def isClosing : Bracket → Glyph → Bool
  | .list,g => g = .char ']'
  | .object,g => g = .char '}'

/-- What a step inside a bracket comes to. -/
inductive Step
  | leave
  | pass
  | enter (b : Bracket)
deriving DecidableEq

/-- An entry of a bracket, up to the end of its value or the bracket that the value opens. -/
def skipValueFront (b : Bracket) : Reader Step := do
  skipEntry b
  match ← skipFront with
  | none => return .pass
  | some inner => return .enter inner

def skipStep (b : Bracket) (first : Bool) : Reader Step := do
  match ← next with
  | none => failAhead (if b = .list then .endInList else .endInObject)
  | some g =>
    if isClosing b g then
      skip
      return .leave
    else if first then skipValueFront b
    else if g = .char ',' then
      skip
      skipValueFront b
    else failAhead (if b = .list then .listCommaExpected else .objectCommaExpected)

/-- Every step takes at least one glyph, so the text itself bounds the steps. -/
def skipFrom (bound : List Glyph) (stack : List Bracket) (first : Bool) : Reader Unit :=
  fun c =>
    match stack with
    | [] => .ok ((),c)
    | b :: outer =>
      match bound with
      | [] => .error (c.stop .endInValue)
      | _ :: bound =>
        match skipStep b first c with
        | .ok (.leave,c) => skipFrom bound outer false c
        | .ok (.pass,c) => skipFrom bound (b :: outer) false c
        | .ok (.enter inner,c) => skipFrom bound (inner :: b :: outer) true c
        | .error e => .error e

def skipValue : Reader Unit :=
  fun c =>
    match skipFront c with
    | .ok (none,past) => .ok ((),past)
    | .ok (some b,past) => skipFrom c.rest [b] true past
    | .error e => .error e

end BuildFarm.Json.Reader
