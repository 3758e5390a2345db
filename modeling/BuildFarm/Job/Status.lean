import BuildFarm.Ident

namespace BuildFarm

inductive JobStatus
  | pending
  | running
  | finished
  | failed
deriving DecidableEq, Repr

namespace JobStatus

def isTerminal : JobStatus → Bool
  | finished => true
  | failed => true
  | _ => false

def text : JobStatus → String
  | pending => "PENDING"
  | running => "RUNNING"
  | finished => "FINISHED"
  | failed => "FAILED"

def names : List (String × JobStatus) :=
  [("PENDING",pending),("RUNNING",running),("FINISHED",finished),("FAILED",failed)]

def parse (s : String) : Except DomainError JobStatus :=
  match Table.find? names s with
  | some j => .ok j
  | none => .error (.validation s!"unknown job status '{s}'")

def toJson (s : JobStatus) : Json := .text s.text

def read (levels : Nat) : Json.Reader JobStatus :=
  Json.Reader.choice levels names

end JobStatus

end BuildFarm
