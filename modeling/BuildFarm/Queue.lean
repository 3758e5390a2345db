import BuildFarm.Registry
import BuildFarm.Store

namespace BuildFarm

inductive QueueError
  | validation (e : DomainError)
  | invalidDependency (id : JobId)
  | notFound (id : JobId)
  | unknownToken
  | claimConcluded
  | invalidStatus (s : JobStatus)
  | invalidTransition (source target : JobStatus)
  | store (e : StoreError)
  /-- All the tokens that were drawn for a claim are taken. -/
  | noToken
deriving DecidableEq, Repr

namespace QueueError

def message : QueueError → String
  | validation e => e.message
  | invalidDependency id => s!"unknown dependency: {id.text}"
  | notFound id => s!"job not found: {id.text}"
  | unknownToken => "unknown dispatch token"
  | claimConcluded => "claim already concluded"
  | invalidStatus s => s!"{s.text} is not a terminal status"
  | invalidTransition source target => s!"invalid transition {source.text} -> {target.text}"
  | store e => s!"job store unavailable: {e.message}"
  | noToken => "no unused dispatch token"

def ofToken : TokenError → QueueError
  | .unknown => unknownToken
  | .retired => claimConcluded

def ofStore : StoreError → QueueError
  | .notFound id => notFound id
  | .invalidTransition source target => invalidTransition source target
  | e => store e

end QueueError

/-- A claimed job as it is handed to a worker. -/
structure Claim where
  token : DispatchToken
  id : JobId
  type : JobType
  args : Json
  /-- The result of each dependency in declared order; null where there is none. -/
  dynamicArgs : Option (List (JobId × Json))
deriving Repr

structure JobDescription where
  type : JobType
  args : Json
  dependencies : List JobId
deriving Repr

structure JobInfo where
  status : JobStatus
  canceled : Bool
  result : Option Json
  queued : Instant
  started : Option Instant
  finished : Option Instant
deriving Repr

/-- What the clocks say: the time, and the milliseconds of a clock that never goes back. -/
structure Reading where
  now : Instant
  uptime : Nat
deriving DecidableEq, Repr

structure Queue where
  store : Store
  tokens : Registry

namespace Queue

def ofStore (s : Store) : Queue := ⟨s,.fresh⟩

/-- The first dependency that is no known job, or the first fault of the store. -/
def checkAll (s : Store) : List JobId → Except QueueError Unit × Store
  | [] => (.ok (),s)
  | d :: ds =>
    match s.get d with
    | (.ok _,s) => checkAll s ds
    | (.error (.notFound _),s) => (.error (.invalidDependency d),s)
    | (.error e,s) => (.error (.ofStore e),s)

/-- Repeated dependencies count once. -/
def enqueue (q : Queue) (id : JobId) (now : Instant) (type : JobType) (args : Json)
    (dependencies : List JobId) : Except QueueError JobId × Queue :=
  let dependencies := dependencies.eraseDups
  match checkAll q.store dependencies with
  | (.error e,s) => (.error e,{ q with store := s })
  | (.ok _,s) =>
    match s.create (Job.make id type args dependencies now) with
    | (.error e,s) => (.error (.ofStore e),{ q with store := s })
    | (.ok _,s) => (.ok id,{ q with store := s })

def results (s : Store) (read : List (JobId × Json)) :
    List JobId → Except QueueError (List (JobId × Json)) × Store
  | [] => (.ok read,s)
  | d :: ds =>
    match s.get d with
    | (.error e,s) => (.error (.ofStore e),s)
    | (.ok j,s) => results s (Entries.set read d (.ofOption j.result)) ds

def dynamicArgs (s : Store) (j : Job) :
    Except QueueError (Option (List (JobId × Json))) × Store :=
  if j.dependencies.isEmpty then (.ok none,s)
  else
    match results s [] j.dependencies with
    | (.error e,s) => (.error e,s)
    | (.ok rs,s) => (.ok (some rs),s)

/-- Claims a job, if there is one, under one of the drawn tokens. Where the results of its
dependencies cannot be read the job is released, if that can be done. -/
def request (q : Queue) (r : Reading) (draws : List DispatchToken) (f : ClaimFilter) :
    Except QueueError (Option Claim) × Queue :=
  match q.store.next f r.now with
  | (.error e,s) => (.error (.ofStore e),{ q with store := s })
  | (.ok none,s) => (.ok none,{ q with store := s })
  | (.ok (some j),s) =>
    match dynamicArgs s j with
    | (.error e,s) => (.error e,{ q with store := (s.update j.id [.release]).2 })
    | (.ok extra,s) =>
      match q.tokens.issue? r.uptime draws j.id with
      | none => (.error .noToken,{ q with store := s })
      | some (token,tokens) => (.ok (some ⟨token,j.id,j.type,j.args,extra⟩),⟨s,tokens⟩)

def describe (q : Queue) (id : JobId) : Except QueueError JobDescription × Queue :=
  match q.store.get id with
  | (.error e,s) => (.error (.ofStore e),{ q with store := s })
  | (.ok j,s) => (.ok ⟨j.type,j.args,j.dependencies⟩,{ q with store := s })

def info (q : Queue) (id : JobId) : Except QueueError JobInfo × Queue :=
  match q.store.get id with
  | (.error e,s) => (.error (.ofStore e),{ q with store := s })
  | (.ok j,s) =>
    (.ok ⟨j.status,j.canceled,j.result,j.queued,j.started,j.finished⟩,{ q with store := s })

/-- Ends a claim, well if no status is given. The token is retired also where the job no
longer runs. -/
def conclude (q : Queue) (r : Reading) (token : DispatchToken) (status : Option JobStatus)
    (result : Option Json) : Except QueueError Unit × Queue :=
  match q.tokens.resolveLive token with
  | .error e => (.error (.ofToken e),q)
  | .ok id =>
    let status := status.getD .finished
    if status.isTerminal then
      match q.store.update id [.conclude status result r.now] with
      | (.ok _,s) => (.ok (),⟨s,(q.tokens.retire r.uptime token).2⟩)
      | (.error (.invalidTransition _ _),s) =>
        (.error .claimConcluded,⟨s,(q.tokens.retire r.uptime token).2⟩)
      | (.error e,s) => (.error (.ofStore e),{ q with store := s })
    else (.error (.invalidStatus status),q)

def cancel (q : Queue) (id : JobId) : Except QueueError Unit × Queue :=
  match q.store.update id [.cancel] with
  | (.error e,s) => (.error (.ofStore e),{ q with store := s })
  | (.ok _,s) => (.ok (),{ q with store := s })

/-- Concluded claims are told too, for as long as their tokens are known. -/
def isCanceled (q : Queue) (token : DispatchToken) : Except QueueError Bool × Queue :=
  match q.tokens.resolve token with
  | .error e => (.error (.ofToken e),q)
  | .ok id =>
    match q.store.get id with
    | (.error e,s) => (.error (.ofStore e),{ q with store := s })
    | (.ok j,s) => (.ok j.canceled,{ q with store := s })

def liveClaim (q : Queue) (token : DispatchToken) : Except QueueError JobId :=
  (q.tokens.resolveLive token).mapError .ofToken

end Queue

end BuildFarm
