import BuildFarm.Json.Value

namespace BuildFarm.Json

namespace Reader

/-- What stands next is of another kind. A scalar is read first, so that a fault inside it
wins and the place is behind it; a bracket is not. -/
def mismatch (expected : String) : Reader α := do
  let found (f : Found) : Reader α := fail (.mismatch f expected)
  match ← next with
  | none => failAhead .endInValue
  | some (.char 'n') => skip; word ['u','l','l']; found .null
  | some (.char 't') => skip; word ['r','u','e']; found (.bool true)
  | some (.char 'f') => skip; word ['a','l','s','e']; found (.bool false)
  | some (.char '-') => skip; found (← numeral false).found
  | some (.char '"') => skip; found (.text (← textRest))
  | some (.char '[') => found .sequence
  | some (.char '{') => found .map
  | some g =>
    if (glyphDigit? g).isSome then found (← numeral true).found
    else failAhead .valueExpected

def textOf (expected : String) : Reader String := do
  match ← next with
  | some (.char '"') => skip; textRest
  | _ => mismatch expected

def text : Reader String :=
  textOf "a string"

/-- A text with a meaning of its own. -/
def parsed (expected : String) (read : String → Except String α) : Reader α := do
  match read (← textOf expected) with
  | .ok a => return a
  | .error message => fail (.rejected message)

def bool : Reader Bool := do
  match ← next with
  | some (.char 't') => skip; word ['r','u','e']; return true
  | some (.char 'f') => skip; word ['a','l','s','e']; return false
  | _ => mismatch "a boolean"

def integerOf (n : Numeral) : Reader Int :=
  match n with
  | .int n => if n < 0x8000000000000000 then Reader.pure n else fail (.outOfRange n "i64")
  | .float x => fail (.mismatch (.float x) "i64")

/-- A whole number of 64 bits with a sign. -/
def integer : Reader Int := do
  match ← next with
  | some (.char '-') => skip; integerOf (← numeral false)
  | some g =>
    if (glyphDigit? g).isSome then integerOf (← numeral true) else mismatch "i64"
  | none => failAhead .endInValue

def unit : Reader Unit := do
  match ← next with
  | some (.char 'n') => skip; word ['u','l','l']
  | _ => mismatch "unit"

def optional (r : Reader α) : Reader (Option α) := do
  match ← next with
  | some (.char 'n') => skip; word ['u','l','l']; return none
  | _ => return some (← r)

/-- A bracket is opened, if one more may be. -/
def opened (levels : Nat) (inner : Nat → Reader α) : Reader α :=
  match levels with
  | 0 => failAhead .tooDeep
  | n + 1 => do
    skip
    inner n

def list (levels : Nat) (element : Nat → Reader α) : Reader (List α) := do
  match ← next with
  | some (.char '[') => opened levels (fun n => elements (element n))
  | _ => mismatch "a sequence"

def table (levels : Nat) (member : Nat → Reader α) : Reader (Table String α) := do
  match ← next with
  | some (.char '{') => opened levels (fun n => do return Table.ofList (← members (member n)))
  | _ => mismatch "a map"

/-- Like a table, but with keys of a type of their own, in the order of their first places. -/
def entries [DecidableEq κ] (levels : Nat) (key : String → Except ε κ)
    (member : Nat → Reader α) : Reader (List (κ × α)) := do
  match ← next with
  | some (.char '{') => opened levels (fun n => foldMembers (fun es => do
      match key (← memberKey) with
      | .error _ => failAhead .keyExpected
      | .ok k =>
        colon
        return Entries.set es k (← member n)) [])
  | _ => mismatch "a map"

def chosen (choices : List (String × α)) (name : String) : Reader α :=
  match Table.find? choices name with
  | some a => Reader.pure a
  | none => fail (.unknownVariant name (choices.map Prod.fst))

/-- One of several words: as a text, or as the only key of an object whose value is null. -/
def choice (levels : Nat) (choices : List (String × α)) : Reader α := do
  match ← next with
  | none => failAhead .endInValue
  | some (.char '"') => do
    chosen choices (← textOf "variant identifier")
  | some (.char '{') => do
    let a ← opened levels (fun _ => do
      if ← anotherMember true then
        let a ← chosen choices (← memberKey)
        colon
        unit
        return a
      else failAhead .valueExpected)
    match ← next with
    | none => fail .endInObject
    | some g =>
      if g = .char '}' then
        skip
        return a
      else fail .valueExpected
  | some _ => failAhead .valueExpected

end Reader

/-- One field of a record that is read into drafts of type `δ`. -/
structure Field (δ : Type) where
  key : String
  isSet : δ → Bool
  read : Nat → δ → Reader δ
  /-- What an object without the field stands for. -/
  absent : δ → Option δ
  /-- What a list that ends before the field stands for. -/
  short : δ → Option δ

/-- How a record is read: an empty draft, the fields that fill it, and its result when all
required fields are set. -/
structure Shape (δ α : Type) where
  expected : String
  fields : List (Field δ)
  blank : δ
  finish : δ → Option α

namespace Field

/-- A field that must be there. -/
def required (key : String) (get : δ → Option β) (set : β → δ → δ) (read : Nat → Reader β) :
    Field δ where
  key := key
  isSet d := (get d).isSome
  read levels d := do return set (← read levels) d
  absent _ := none
  short _ := none

/-- A field that an object may leave out. -/
def optional (key : String) (get : δ → Option (Option β)) (set : Option β → δ → δ)
    (read : Nat → Reader β) : Field δ where
  key := key
  isSet d := (get d).isSome
  read levels d := do return set (← Reader.optional (read levels)) d
  absent d := some (set none d)
  short _ := none

/-- A field that an object and a list may leave out. -/
def defaulted (key : String) (get : δ → Option β) (set : β → δ → δ) (value : β)
    (read : Nat → Reader β) : Field δ where
  key := key
  isSet d := (get d).isSome
  read levels d := do return set (← read levels) d
  absent d := some (set value d)
  short d := some (set value d)

end Field

namespace Reader

def countText (n : Nat) : String :=
  if n = 1 then "1 element" else s!"{n} elements"

/-- The fields in order; `index` counts those before. -/
def inOrder (levels : Nat) (tooShort : Nat → Cause) (index : Nat) :
    List (Field δ) → δ → Reader δ
  | [],d => do
    closeList
    return d
  | f :: fs,d => do
    if ← anotherElement (index == 0) then
      let d ← f.read levels d
      inOrder levels tooShort (index + 1) fs d
    else
      match f.short d with
      | some d => inOrder levels tooShort (index + 1) fs d
      | none =>
        closeLeniently ']'
        fail (tooShort index)

/-- Fields that no member has set, in declared order. -/
def complete (d : δ) : List (Field δ) → Reader δ
  | [] => Reader.pure d
  | f :: fs =>
    if f.isSet d then complete d fs
    else
      match f.absent d with
      | some d => complete d fs
      | none => fail (.missingField f.key)

/-- One member of an object, into the field that it names. -/
def memberInto (levels : Nat) (fields : List (Field δ)) (d : δ) : Reader δ := do
  let k ← memberKey
  match fields.find? (fun f => f.key = k) with
  | none =>
    colon
    skipValue
    return d
  | some f =>
    if f.isSet d then
      closeLeniently '}'
      fail (.duplicateField k)
    else
      colon
      f.read levels d

def inAnyOrder (levels : Nat) (fields : List (Field δ)) (d : δ) : Reader δ := do
  complete (← foldMembers (memberInto levels fields) d) fields

def finished (s : Shape δ α) (d : δ) : Reader α :=
  match s.finish d with
  | some a => Reader.pure a
  | none => fail .endInObject

def record (s : Shape δ α) (levels : Nat) : Reader α := do
  match ← next with
  | none => failAhead .endInValue
  | some (.char '[') => do
    let tooShort (n : Nat) : Cause := .length n s!"{s.expected} with {countText s.fields.length}"
    let d ← opened levels (fun n => inOrder n tooShort 0 s.fields s.blank)
    finished s d
  | some (.char '{') => do
    let d ← opened levels (fun n => inAnyOrder n s.fields s.blank)
    finished s d
  | _ => mismatch s.expected

end Reader

end BuildFarm.Json
