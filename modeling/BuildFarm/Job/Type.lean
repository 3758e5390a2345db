import BuildFarm.Ident
import BuildFarm.Text.Blank

namespace BuildFarm

structure JobType where
  kind : String
  arch : String
deriving DecidableEq, Repr

namespace JobType

def text (t : JobType) : String :=
  t.kind ++ ":" ++ t.arch

/-- Neither part may be blank or hold the colon that joins them. -/
def make (kind arch : String) : Except DomainError JobType :=
  if Text.allBlank kind ∨ Text.allBlank arch then
    .error (.validation "job kind and architecture must not be empty")
  else if ':' ∈ kind.toList ∨ ':' ∈ arch.toList then
    .error (.validation "job kind and architecture must not contain ':'")
  else .ok ⟨kind,arch⟩

def parse (s : String) : Except DomainError JobType :=
  let cs := s.toList
  match cs.dropWhile (· ≠ ':') with
  | [] => .error (.validation s!"job type '{s}' is not kind:arch")
  | _ :: arch => make (String.ofList (cs.takeWhile (· ≠ ':'))) (String.ofList arch)

def toJson (t : JobType) : Json :=
  .object [("kind",.text t.kind),("arch",.text t.arch)]

structure Draft where
  kind : Option String := none
  arch : Option String := none

/-- A record may hold a type that nobody could make. -/
def shape : Json.Shape Draft JobType where
  expected := "struct JobType"
  fields :=
    [.required "kind" Draft.kind (fun v d => { d with kind := some v })
      (fun _ => Json.Reader.text),
     .required "arch" Draft.arch (fun v d => { d with arch := some v })
      (fun _ => Json.Reader.text)]
  blank := {}
  finish d := do return ⟨← d.kind,← d.arch⟩

def read (levels : Nat) : Json.Reader JobType :=
  Json.Reader.record shape levels

end JobType

end BuildFarm
