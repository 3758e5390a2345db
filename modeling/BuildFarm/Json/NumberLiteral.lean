import BuildFarm.Json.Cursor

namespace BuildFarm.Json

inductive Numeral
  | int (n : Int)
  | float (x : Binary64)
deriving DecidableEq, Repr

def Numeral.toJson : Numeral → Json
  | .int n => .int n
  | .float x => .float x

def Numeral.found : Numeral → Found
  | .int n => .int n
  | .float x => .float x

namespace Reader

/-- Digits are taken on as long as the significand has room; the rest is left. -/
def absorb (n : Nat) : List Char → Nat × List Char
  | [] => (n,[])
  | d :: ds =>
    let m := n * 10 + Text.digitValue d
    if m < 0x10000000000000000 then absorb m ds else (n,d :: ds)

/-- The exponent of ten that a literal may spell is less than 2^31. -/
def exponentRoom (e : Nat) : List Char → Nat × List Char
  | [] => (e,[])
  | d :: ds =>
    let f := e * 10 + Text.digitValue d
    if f < 0x80000000 then exponentRoom f ds else (e,d :: ds)

def scaled (positive : Bool) (significand : Nat) (k : Int) : Reader Numeral :=
  match Binary64.ofDecimal? significand k with
  | some x => Reader.pure (.float (if positive then x else x.neg))
  | none => fail .numberRange

/-- Of the digits that are read some are given back. -/
def failBefore (unread : List Char) (cause : Cause) : Reader α :=
  fun c =>
    let back : Cursor :=
      ⟨unread.map Glyph.char ++ c.rest,⟨c.place.line,c.place.column - unread.length⟩⟩
    .error (back.stop cause)

/-- What follows the letter of an exponent. -/
def exponentPart (positive : Bool) (significand : Nat) (k : Int) : Reader Numeral := do
  let sign ← peek
  if sign = some (.char '+') ∨ sign = some (.char '-') then skip
  match ← peek with
  | none => fail .endInValue
  | some g =>
    match glyphDigit? g with
    | none => failAhead .number
    | some _ =>
      let ds ← decimalDigits
      match exponentRoom 0 ds with
      | (e,[]) => scaled positive significand (if sign = some (.char '-') then k - e else k + e)
      | (_,_ :: unread) =>
        if significand ≠ 0 ∧ sign ≠ some (.char '-') then failBefore unread .numberRange
        else return .float (Binary64.zero !positive)

def isExponentMark (g : Option Glyph) : Bool :=
  g = some (.char 'e') || g = some (.char 'E')

/-- What follows the whole part of a number: nothing, a fraction, an exponent or both.
`dropped` counts the digits of the whole part that the significand has no room for. -/
def fractionPart (positive : Bool) (significand dropped : Nat) : Reader Numeral := do
  let mark ← peek
  if mark = some (.char '.') then
    skip
    let ds ← decimalDigits
    match ds with
    | [] =>
      match ← peek with
      | none => failAhead .endInValue
      | some _ => failAhead .number
    | _ =>
      let (n,unread) := absorb significand ds
      let k : Int := (dropped : Int) - (ds.length - unread.length : Nat)
      if isExponentMark (← peek) then
        skip
        exponentPart positive n k
      else scaled positive n k
  else if isExponentMark mark then
    skip
    exponentPart positive significand dropped
  else if dropped ≠ 0 then scaled positive significand dropped
  else if positive then return .int significand
  else if significand = 0 ∨ 0x8000000000000000 < significand then scaled false significand 0
  else return .int (-significand)

/-- A number whose sign is read. -/
def numeral (positive : Bool) : Reader Numeral := do
  match ← peek with
  | none => fail .endInValue
  | some g =>
    match glyphDigit? g with
    | none => failAhead .number
    | some '0' => do
      skip
      match (← peek).bind glyphDigit? with
      | some _ => failAhead .number
      | none => fractionPart positive 0 0
    | some _ =>
      let ds ← decimalDigits
      let (n,unread) := absorb 0 ds
      fractionPart positive n unread.length

def skipExponent : Reader Unit := do
  skip
  let sign ← peek
  if sign = some (.char '+') ∨ sign = some (.char '-') then skip
  match (← peek).bind glyphDigit? with
  | none => failAhead .number
  | some _ =>
    let _ ← decimalDigits
    return ()

/-- Passes over a number without working out its value. -/
def skipNumeral : Reader Unit := do
  match (← peek).bind glyphDigit? with
  | none => failAhead .number
  | some '0' =>
    skip
    if ((← peek).bind glyphDigit?).isSome then failAhead .number
  | some _ =>
    let _ ← decimalDigits
  let mark ← peek
  if mark = some (.char '.') then
    skip
    match ← decimalDigits with
    | [] => failAhead .number
    | _ => if isExponentMark (← peek) then skipExponent
  else if isExponentMark mark then skipExponent

end Reader

end BuildFarm.Json
