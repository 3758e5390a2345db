import BuildFarm.Json
import BuildFarm.Text.Bytes
import BuildFarm.Text.Quoted

namespace BuildFarm.Json

/-- Lines count from one. The column is the number of bytes of the line that are read. -/
structure Place where
  line : Nat
  column : Nat
deriving DecidableEq, Repr

def Place.after (p : Place) (g : Glyph) : Place :=
  if g = .char '\n' then ⟨p.line + 1,0⟩ else ⟨p.line,p.column + g.width⟩

/-- What stands where a value of another kind is expected. -/
inductive Found
  | null
  | bool (b : Bool)
  | int (n : Int)
  | float (x : Binary64)
  | text (s : String)
  | sequence
  | map
deriving DecidableEq, Repr

def Found.describe : Found → String
  | .null => "null"
  | .bool b => s!"boolean `{b}`"
  | .int n => s!"integer `{n}`"
  | .float x => s!"floating point `{String.ofList x.text}`"
  | .text s => s!"string {Text.quoted s}"
  | .sequence => "sequence"
  | .map => "map"

inductive Cause
  | endInValue
  | endInObject
  | endInList
  | endInText
  | colonExpected
  | listCommaExpected
  | objectCommaExpected
  | wordExpected
  | valueExpected
  | escape
  | number
  | numberRange
  | codePoint
  | controlCharacter
  | keyExpected
  | loneSurrogate
  | surrogateEnd
  | trailingComma
  | trailingCharacters
  | tooDeep
  | mismatch (found : Found) (expected : String)
  | outOfRange (n : Int) (expected : String)
  | missingField (name : String)
  | duplicateField (name : String)
  | length (n : Nat) (expected : String)
  | unknownVariant (name : String) (known : List String)
  | rejected (message : String)
deriving DecidableEq, Repr

def variantList : List String → String
  | [] => "there are no variants"
  | [a] => s!"expected `{a}`"
  | [a,b] => s!"expected `{a}` or `{b}`"
  | many => "expected one of " ++ ", ".intercalate (many.map (fun a => s!"`{a}`"))

def Cause.message : Cause → String
  | .endInValue => "EOF while parsing a value"
  | .endInObject => "EOF while parsing an object"
  | .endInList => "EOF while parsing a list"
  | .endInText => "EOF while parsing a string"
  | .colonExpected => "expected `:`"
  | .listCommaExpected => "expected `,` or `]`"
  | .objectCommaExpected => "expected `,` or `\x7d`"
  | .wordExpected => "expected ident"
  | .valueExpected => "expected value"
  | .escape => "invalid escape"
  | .number => "invalid number"
  | .numberRange => "number out of range"
  | .codePoint => "invalid unicode code point"
  | .controlCharacter => "control character (\\u0000-\\u001F) found while parsing a string"
  | .keyExpected => "key must be a string"
  | .loneSurrogate => "lone leading surrogate in hex escape"
  | .surrogateEnd => "unexpected end of hex escape"
  | .trailingComma => "trailing comma"
  | .trailingCharacters => "trailing characters"
  | .tooDeep => "recursion limit exceeded"
  | .mismatch found expected => s!"invalid type: {found.describe}, expected {expected}"
  | .outOfRange n expected => s!"invalid value: integer `{n}`, expected {expected}"
  | .missingField name => s!"missing field `{name}`"
  | .duplicateField name => s!"duplicate field `{name}`"
  | .length n expected => s!"invalid length {n}, expected {expected}"
  | .unknownVariant name known => s!"unknown variant `{name}`, {variantList known}"
  | .rejected message => message

/-- A fault of a value that was read well has no place in the text: its line is zero. -/
structure Fault where
  cause : Cause
  place : Place
deriving DecidableEq, Repr

def Fault.message (f : Fault) : String :=
  if f.place.line = 0 then f.cause.message
  else s!"{f.cause.message} at line {f.place.line} column {f.place.column}"

structure Cursor where
  rest : List Glyph
  place : Place
deriving DecidableEq, Repr

namespace Cursor

def start (text : List Glyph) : Cursor :=
  ⟨text,⟨1,0⟩⟩

/-- The place after the next byte, or the end. -/
def ahead (c : Cursor) : Place :=
  match c.rest with
  | [] => c.place
  | g :: _ => if g = .char '\n' then ⟨c.place.line + 1,0⟩ else ⟨c.place.line,c.place.column + 1⟩

/-- The cursor behind the next byte. Of a longer character the other bytes are left. -/
def pastByte (c : Cursor) : Cursor :=
  match c.rest with
  | [] => c
  | .stray _ :: rest => ⟨rest,c.ahead⟩
  | .char x :: rest => ⟨((Bytes.ofText x.toString).drop 1).map .stray ++ rest,c.ahead⟩

end Cursor

/-- What is wrong, and where the reader gave up. -/
structure Stop where
  fault : Fault
  cursor : Cursor
deriving DecidableEq, Repr

/-- The fault lies before the cursor. -/
def Cursor.stop (c : Cursor) (cause : Cause) : Stop :=
  ⟨⟨cause,c.place⟩,c⟩

/-- The fault is the next byte. -/
def Cursor.stopAhead (c : Cursor) (cause : Cause) : Stop :=
  ⟨⟨cause,c.ahead⟩,c⟩

/-- Takes what it reads from the front of the text. -/
def Reader (α : Type) := Cursor → Except Stop (α × Cursor)

namespace Reader

@[inline] def pure (a : α) : Reader α :=
  fun c => .ok (a,c)

@[inline] def bind (r : Reader α) (f : α → Reader β) : Reader β :=
  fun c =>
    match r c with
    | .ok (a,c) => f a c
    | .error e => .error e

instance : Monad Reader where
  pure := Reader.pure
  bind := Reader.bind

def fail (cause : Cause) : Reader α :=
  fun c => .error (c.stop cause)

def reject (message : String) : Reader α :=
  fun c => .error ⟨⟨.rejected message,⟨0,0⟩⟩,c⟩

def failAhead (cause : Cause) : Reader α :=
  fun c => .error (c.stopAhead cause)

/-- What cannot be read is left where the reader gave up. -/
def attempt (r : Reader α) : Reader (Option α) :=
  fun c =>
    match r c with
    | .ok (a,c) => .ok (some a,c)
    | .error e => .ok (none,e.cursor)

/-- After a failure the cursor still moves on as `close` moves it. -/
def closing (close : Reader Unit) (r : Reader α) : Reader α :=
  fun c =>
    match r c with
    | .ok (a,c) => .ok (a,c)
    | .error e =>
      match close e.cursor with
      | .ok (_,c) => .error ⟨e.fault,c⟩
      | .error f => .error ⟨e.fault,f.cursor⟩

def peek : Reader (Option Glyph) :=
  fun c => .ok (c.rest.head?,c)

/-- At the end of the text nothing is skipped. -/
def skip : Reader Unit :=
  fun c =>
    match c.rest with
    | [] => .ok ((),c)
    | g :: rest => .ok ((),⟨rest,c.place.after g⟩)

def isBlank (g : Glyph) : Bool :=
  g = .char ' ' || g = .char '\n' || g = .char '\t' || g = .char '\r'

def pastBlanks (place : Place) : List Glyph → Cursor
  | [] => ⟨[],place⟩
  | g :: rest => if isBlank g then pastBlanks (place.after g) rest else ⟨g :: rest,place⟩

def blanks : Reader Unit :=
  fun c => .ok ((),pastBlanks c.place c.rest)

/-- The next glyph that is not blank. -/
def next : Reader (Option Glyph) := do
  blanks
  peek

/-- The rest of a word whose first letter is read. -/
def word : List Char → Reader Unit
  | [] => Reader.pure ()
  | w :: ws => do
    match ← peek with
    | none => fail .endInValue
    | some g =>
      if g = .char w then
        skip
        word ws
      else failAhead .wordExpected

def glyphDigit? (g : Glyph) : Option Char :=
  match g with
  | .char c => if Text.isDigit c then some c else none
  | .stray _ => none

def spanDigits (acc : List Char) (place : Place) : List Glyph → List Char × Cursor
  | [] => (acc.reverse,⟨[],place⟩)
  | g :: rest =>
    match glyphDigit? g with
    | some d => spanDigits (d :: acc) (place.after g) rest
    | none => (acc.reverse,⟨g :: rest,place⟩)

/-- All decimal digits up to something else. -/
def decimalDigits : Reader (List Char) :=
  fun c => .ok (spanDigits [] c.place c.rest)

end Reader

end BuildFarm.Json
