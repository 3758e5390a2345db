import BuildFarm.Json.Record
import BuildFarm.Uuid

namespace BuildFarm

/-- Why a text names nothing. -/
inductive DomainError
  | validation (message : String)
  | invalidId (message : String)
deriving DecidableEq, Repr

def DomainError.message : DomainError → String
  | .validation m => s!"validation failed: {m}"
  | .invalidId m => s!"invalid identifier: {m}"

structure JobId where
  uuid : Uuid
deriving DecidableEq, Repr, Hashable

structure DispatchToken where
  uuid : Uuid
deriving DecidableEq, Repr, Hashable

def Uuid.read : Json.Reader Uuid :=
  Json.Reader.parsed "a formatted UUID string" (fun s =>
    match Uuid.parse s with
    | .ok u => .ok u
    | .error f => .error s!"UUID parsing failed: {f.message}")

namespace JobId

def text (i : JobId) : String := i.uuid.text

def parse (s : String) : Except DomainError JobId :=
  match Uuid.parse s with
  | .ok u => .ok ⟨u⟩
  | .error f => .error (.invalidId s!"JobId: {f.message}")

def read : Json.Reader JobId := do
  return ⟨← Uuid.read⟩

def toJson (i : JobId) : Json := .text i.text

instance : LT JobId := ⟨fun a b => a.uuid < b.uuid⟩

instance : DecidableLT JobId := fun a b => inferInstanceAs (Decidable (a.uuid < b.uuid))

end JobId

namespace DispatchToken

def text (t : DispatchToken) : String := t.uuid.text

def parse (s : String) : Except DomainError DispatchToken :=
  match Uuid.parse s with
  | .ok u => .ok ⟨u⟩
  | .error f => .error (.invalidId s!"DispatchToken: {f.message}")

def read : Json.Reader DispatchToken := do
  return ⟨← Uuid.read⟩

def toJson (t : DispatchToken) : Json := .text t.text

end DispatchToken

namespace ArtifactName

def maxBytes : Nat := 255

def isSeparator (c : Char) : Bool :=
  c = '/' || c = '\\' || c.toNat = 0

/-- What is wrong with a text as the name of one file. -/
def objection? (s : String) : Option String :=
  if s = "" then some "artifact name must not be empty"
  else if maxBytes < s.utf8ByteSize then some s!"artifact name longer than {maxBytes} bytes"
  else if s = "." ∨ s = ".." then some "artifact name must not be '.' or '..'"
  else if s.toList.any isSeparator then
    some "artifact name must be a single path component"
  else none

end ArtifactName

/-- The name of one file in a folder. -/
structure ArtifactName where
  text : String
  valid : ArtifactName.objection? text = none
deriving DecidableEq, Repr

namespace ArtifactName

def parse (s : String) : Except DomainError ArtifactName :=
  match h : objection? s with
  | none => .ok ⟨s,h⟩
  | some m => .error (.validation m)

def read : Json.Reader ArtifactName := do
  match parse (← Json.Reader.text) with
  | .ok n => return n
  | .error e => Json.Reader.reject e.message

end ArtifactName

end BuildFarm
