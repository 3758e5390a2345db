import BuildFarm.Queue
import Mathlib.Data.List.Induction

namespace BuildFarm

/-- A call of the store that is to fail, without effect, after so many that are let pass. -/
structure Outage where
  call : StoreCall
  message : String
  skip : Nat

def Outage.fault (o : Outage) : PlannedFault :=
  ⟨o.call,.storage o.message,o.skip⟩

inductive Action
  | enqueue (id : JobId) (now : Instant) (type : JobType) (args : Json) (dependencies : List JobId)
  | request (reading : Reading) (draws : List DispatchToken) (filter : ClaimFilter)
  | describe (id : JobId)
  | info (id : JobId)
  | conclude (reading : Reading) (token : DispatchToken) (status : Option JobStatus)
      (result : Option Json)
  | cancel (id : JobId)
  | isCanceled (token : DispatchToken)
  | liveClaim (token : DispatchToken)
  | plan (outages : List Outage) (failures : List (Option WriteFailure))

/-- What a call that was answered well has done. A conclusion without a status is a good one. -/
inductive Event
  | enqueued (id : JobId) (type : JobType) (args : Json) (dependencies : List JobId)
  | claimed (claim : Claim)
  | concluded (token : DispatchToken) (job : JobId) (status : JobStatus) (result : Option Json)
      (now : Instant)
  | canceled (id : JobId)
  /-- Of a call that was answered with an error: a claim that could not be given back. -/
  | stranded (job : JobId)

namespace Action

/-- The tokens that a call draws. -/
def draws : Action → List DispatchToken
  | .request _ draws _ => draws
  | _ => []

def reading? : Action → Option Reading
  | .request r _ _ => some r
  | .conclude r _ _ _ => some r
  | _ => none

end Action

namespace Event

def claimedJob? : Event → Option JobId
  | .claimed c => some c.id
  | _ => none

def concludedJob? : Event → Option JobId
  | .concluded _ job _ _ _ => some job
  | _ => none

end Event

namespace Queue

/-- No records and no tokens. Without a root the store is kept in memory alone. -/
def start (disk : Disk) (root : Option Path) : Queue :=
  .ofStore ⟨disk,root,.empty,[],[]⟩

def step (q : Queue) : Action → Queue
  | .enqueue id now type args dependencies => (q.enqueue id now type args dependencies).2
  | .request r draws f => (q.request r draws f).2
  | .describe id => (q.describe id).2
  | .info id => (q.info id).2
  | .conclude r token status result => (q.conclude r token status result).2
  | .cancel id => (q.cancel id).2
  | .isCanceled token => (q.isCanceled token).2
  | .liveClaim _ => q
  | .plan outages failures =>
    { q with store := { q.store with faults := outages.map Outage.fault, failures := failures } }

/-- The job that a request marks as running and then can neither hand out, as the results of its
dependencies cannot be read, nor release. -/
def stranded? (q : Queue) (r : Reading) (f : ClaimFilter) : Option JobId :=
  match q.store.next f r.now with
  | (.ok (some j),s) =>
    match dynamicArgs s j with
    | (.error _,s) =>
      match (s.update j.id [.release]).1 with
      | .error _ => some j.id
      | .ok _ => none
    | (.ok _,_) => none
  | _ => none

def events (q : Queue) : Action → List Event
  | .enqueue id now type args dependencies =>
    match (q.enqueue id now type args dependencies).1 with
    | .ok id => [.enqueued id type args dependencies]
    | .error _ => []
  | .request r draws f =>
    match (q.request r draws f).1 with
    | .ok (some c) => [.claimed c]
    | .ok none => []
    | .error _ => (q.stranded? r f).toList.map .stranded
  | .conclude r token status result =>
    match q.liveClaim token,(q.conclude r token status result).1 with
    | .ok job,.ok _ => [.concluded token job (status.getD .finished) result r.now]
    | _,_ => []
  | .cancel id =>
    match (q.cancel id).1 with
    | .ok _ => [.canceled id]
    | .error _ => []
  | _ => []

/-- The queue at the end of a run. -/
def after (q : Queue) : List Action → Queue
  | [] => q
  | a :: run => (q.step a).after run

def history (q : Queue) : List Action → List Event
  | [] => []
  | a :: run => q.events a ++ (q.step a).history run

@[simp] theorem after_append (q : Queue) (xs ys : List Action) :
    q.after (xs ++ ys) = (q.after xs).after ys := by
  induction xs generalizing q with
  | nil => rfl
  | cons a xs ih => exact ih (q.step a)

@[simp] theorem history_append (q : Queue) (xs ys : List Action) :
    q.history (xs ++ ys) = q.history xs ++ (q.after xs).history ys := by
  induction xs generalizing q with
  | nil => rfl
  | cons a xs ih => simp [history,after,ih]

/-- What holds at the start and is kept by each call holds after every run. -/
theorem run_induction {q : Queue} {P : List Action → List Event → Queue → Prop} (start : P [] [] q)
    (next : ∀ past es p a, P past es p → P (past ++ [a]) (es ++ p.events a) (p.step a))
    (run : List Action) : P run (q.history run) (q.after run) := by
  induction run using List.reverseRecOn with
  | nil => exact start
  | append_singleton past a ih =>
    have h := next _ _ _ a ih
    simpa [history,after] using h

namespace Sample

def parent : JobId := ⟨.ofNat 1⟩

def child : JobId := ⟨.ofNat 2⟩

def ticket (n : Nat) : DispatchToken := ⟨.ofNat n⟩

def reading (n : Nat) : Reading := ⟨.epoch,n⟩

def anyWork : ClaimFilter := ⟨["build"],"x86"⟩

def claimed : List Action :=
  [.enqueue parent .epoch ⟨"build","x86"⟩ .null [],
   .request (reading 0) [ticket 1] anyWork]

/-- One job is concluded, and another that depends on it is put in. -/
def chained : List Action :=
  claimed ++ [.conclude (reading 1) (ticket 1) none (some (.text "done")),
    .enqueue child .epoch ⟨"build","x86"⟩ .null [parent]]

end Sample

end Queue

end BuildFarm
