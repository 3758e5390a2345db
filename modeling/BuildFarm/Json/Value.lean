import BuildFarm.Json.Skip

namespace BuildFarm.Json

/-- How many brackets a text may have open at once. -/
def maxLevels : Nat := 127

namespace Reader

/-- Whether another element follows, of a list whose bracket is read. -/
def anotherElement (first : Bool) : Reader Bool := do
  match ← next with
  | none => failAhead .endInList
  | some g =>
    if g = .char ']' then return false
    else if first then return true
    else if g = .char ',' then
      skip
      match ← next with
      | none => failAhead .endInValue
      | some h => if h = .char ']' then failAhead .trailingComma else return true
    else failAhead .listCommaExpected

def keyAhead (g : Option Glyph) : Reader Bool :=
  match g with
  | none => failAhead .endInValue
  | some g =>
    if g = .char '"' then Reader.pure true
    else if g = .char '}' then failAhead .trailingComma
    else failAhead .keyExpected

/-- Whether another member follows, of an object whose bracket is read. -/
def anotherMember (first : Bool) : Reader Bool := do
  match ← next with
  | none => failAhead .endInObject
  | some g =>
    if g = .char '}' then return false
    else if first then keyAhead (some g)
    else if g = .char ',' then
      skip
      keyAhead (← next)
    else failAhead .objectCommaExpected

/-- The key of a member that is known to follow. -/
def memberKey : Reader String := do
  skip
  textRest

/-- The elements up to the closing bracket. Each takes at least one glyph, so the text itself
bounds their number. -/
def elementsFrom (bound : List Glyph) (element : Reader α) (read : List α) : Reader (List α) :=
  fun c =>
    match bound with
    | [] => .error (c.stop .endInList)
    | _ :: bound =>
      match anotherElement read.isEmpty c with
      | .error e => .error e
      | .ok (false,c) => (skip c).map (fun p => (read.reverse,p.2))
      | .ok (true,c) =>
        match element c with
        | .error e => .error e
        | .ok (a,c) => elementsFrom bound element (a :: read) c

def elements (element : Reader α) : Reader (List α) :=
  fun c => elementsFrom c.rest element [] c

/-- Each member is read, from its key on, into what the members before it made. -/
def membersFrom (bound : List Glyph) (member : β → Reader β) (first : Bool) (b : β) : Reader β :=
  fun c =>
    match bound with
    | [] => .error (c.stop .endInObject)
    | _ :: bound =>
      match anotherMember first c with
      | .error e => .error e
      | .ok (false,c) => (skip c).map (fun p => (b,p.2))
      | .ok (true,c) =>
        match member b c with
        | .error e => .error e
        | .ok (b,c) => membersFrom bound member false b c

/-- The members up to the closing bracket. -/
def foldMembers (member : β → Reader β) (b : β) : Reader β :=
  fun c => membersFrom c.rest member true b c

/-- The members in the order in which they are written. -/
def members (member : Reader α) : Reader (List (String × α)) := do
  let read ← foldMembers (fun read => do
    let k ← memberKey
    colon
    return (k,← member) :: read) []
  return read.reverse

/-- Past the end of a list whose elements are read. -/
def closeList : Reader Unit := do
  match ← next with
  | none => failAhead .endInList
  | some g =>
    if g = .char ']' then skip
    else if g = .char ',' then
      skip
      match ← next with
      | some (.char ']') => failAhead .trailingComma
      | _ => failAhead .trailingCharacters
    else failAhead .trailingCharacters

/-- Past the closing bracket, if it comes next. -/
def closeLeniently (bracket : Char) : Reader Unit := do
  match ← next with
  | none => return ()
  | some g => if g = .char bracket then skip

/-- A value with all members of its objects, as they are written. -/
def content (levels : Nat) : Reader Json := do
  match ← next with
  | none => failAhead .endInValue
  | some (.char 'n') => skip; word ['u','l','l']; return .null
  | some (.char 't') => skip; word ['r','u','e']; return .bool true
  | some (.char 'f') => skip; word ['a','l','s','e']; return .bool false
  | some (.char '-') => skip; return (← numeral false).toJson
  | some (.char '"') => skip; return .text (← textRest)
  | some (.char '[') =>
    match levels with
    | 0 => failAhead .tooDeep
    | n + 1 => skip; return .array (← closing closeList (elements (content n)))
  | some (.char '{') =>
    match levels with
    | 0 => failAhead .tooDeep
    | n + 1 => skip; return .object (← closing (closeLeniently '}') (members (content n)))
  | some g =>
    if (glyphDigit? g).isSome then return (← numeral true).toJson
    else failAhead .valueExpected

def value (levels : Nat) : Reader Json := do
  return (← content levels).sorted

/-- Nothing but blanks may follow. -/
def done : Reader Unit := do
  match ← next with
  | none => return ()
  | some _ => failAhead .trailingCharacters

end Reader

/-- Reads the whole text. -/
def parse (r : Reader α) (text : List Glyph) : Except Fault α :=
  let whole : Reader α := do
    let a ← r
    Reader.done
    return a
  (whole (Cursor.start text)).map Prod.fst |>.mapError Stop.fault

def parseValue (text : List Glyph) : Except Fault Json :=
  parse (Reader.value maxLevels) text

end BuildFarm.Json
