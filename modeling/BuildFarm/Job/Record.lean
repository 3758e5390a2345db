import BuildFarm.Job.Type
import BuildFarm.StoreError
import BuildFarm.Time

namespace BuildFarm

structure Job where
  id : JobId
  type : JobType
  args : Json
  dependencies : List JobId
  status : JobStatus
  canceled : Bool
  result : Option Json
  queued : Instant
  started : Option Instant
  finished : Option Instant
deriving Repr

namespace Job

def make (id : JobId) (type : JobType) (args : Json) (dependencies : List JobId)
    (now : Instant) : Job where
  id := id
  type := type
  args := args
  dependencies := dependencies
  status := .pending
  canceled := false
  result := none
  queued := now
  started := none
  finished := none

def markRunning (j : Job) (now : Instant) : Except StoreError Job :=
  if j.status = .pending then .ok { j with status := .running, started := some now }
  else .error (.invalidTransition j.status .running)

def release (j : Job) : Except StoreError Job :=
  if j.status = .running then .ok { j with status := .pending, started := none }
  else .error (.invalidTransition j.status .pending)

def conclude (j : Job) (status : JobStatus) (result : Option Json) (now : Instant) :
    Except StoreError Job :=
  if j.status = .running ∧ status.isTerminal then
    .ok { j with status := status, result := result, finished := some now }
  else .error (.invalidTransition j.status status)

def cancel (j : Job) : Job :=
  { j with canceled := true }

/-- One change of a record. -/
inductive Change
  | markRunning (now : Instant)
  | release
  | conclude (status : JobStatus) (result : Option Json) (now : Instant)
  | cancel
deriving Repr

def change (j : Job) : Change → Except StoreError Job
  | .markRunning now => j.markRunning now
  | .release => j.release
  | .conclude status result now => j.conclude status result now
  | .cancel => .ok j.cancel

/-- All changes or none. -/
def changeAll (j : Job) : List Change → Except StoreError Job
  | [] => .ok j
  | c :: cs => do changeAll (← j.change c) cs

end Job

/-- The jobs that a worker can take on. -/
structure ClaimFilter where
  kinds : List String
  arch : String
deriving DecidableEq, Repr

def ClaimFilter.accepts (f : ClaimFilter) (j : Job) : Bool :=
  j.status = .pending && j.type.arch = f.arch && f.kinds.contains j.type.kind

end BuildFarm
