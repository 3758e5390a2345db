import BuildFarm.Http.Server
import BuildFarm.Proofs.Queue.Tokens

namespace BuildFarm

/-- The calls of the store that are to fail. -/
def Action.outages : Action → List Outage
  | .plan outages _ => outages
  | _ => []

namespace Services

/-- No records and no tokens. -/
def start (disk : Disk) (root : Option Path) (artifacts : Artifacts) : Services :=
  ⟨.start disk root,artifacts⟩

def call (s : Services) (a : Action) : Services :=
  { s with queue := s.queue.step a }

/-- What the services are after an upload. -/
def stored (s : Services) (drawn : Uuid) (job : JobId) (name : ArtifactName) (body : Body) :
    Services :=
  s.withDisk (s.artifacts.put s.disk drawn job name body).2

/-- What the services can become. Of the store only writes fail. -/
inductive Reached (i : Services) : Services → Prop
  | start : Reached i i
  | call (before : Reached i s) (a : Action) (calls : a.outages = []) : Reached i (s.call a)
  | request (before : Reached i s) (access : Http.Access) (o : Http.Occasion) (r : Http.Request) :
    Reached i (Http.Server.handle access s o r).2

end Services

namespace Http.Server

/-- The calls of the queue that requests come to. What concludes a job was read from a body. -/
def Served : BuildFarm.Action → Prop
  | .request .. => True
  | .isCanceled _ => True
  | .conclude _ _ status result => ∃ bytes, decodeBody Report.shape bytes = .ok ⟨status,result⟩
  | _ => False

theorem Served.outages {a : BuildFarm.Action} (h : Served a) : a.outages = [] := by
  cases a with
  | plan => exact absurd h id
  | _ => rfl

/-- One call of the queue was made, or none. -/
def AtMostOne (s t : Services) : Prop :=
  t = s ∨ ∃ a : BuildFarm.Action, Served a ∧ t = s.call a

theorem requestJob_calls (s : Services) (o : Occasion) (body : Body) :
    AtMostOne (takeBody s body).2 (requestJob s o body).2 := by
  unfold requestJob
  generalize takeBody s body = out
  obtain ⟨x,t⟩ := out
  cases x with
  | error reply => exact Or.inl rfl
  | ok bytes =>
    dsimp only
    cases decodeBody JobWanted.shape bytes with
    | error reply => exact Or.inl rfl
    | ok wanted =>
      refine Or.inr ⟨.request o.reading o.tokens wanted.filter,trivial,?_⟩
      unfold Services.call Queue.step
      dsimp only
      generalize t.queue.request o.reading o.tokens wanted.filter = out
      obtain ⟨_ | _ | c,q⟩ := out <;> rfl

theorem showJob_calls (s : Services) (token : List Char) : AtMostOne s (showJob s token).2 := by
  unfold showJob
  cases tokenOf token with
  | error reply => exact Or.inl rfl
  | ok t =>
    refine Or.inr ⟨.isCanceled t,trivial,?_⟩
    unfold Services.call Queue.step
    dsimp only
    generalize s.queue.isCanceled t = out
    obtain ⟨_ | _,q⟩ := out <;> rfl

theorem concludeJob_calls (s : Services) (o : Occasion) (token : List Char) (body : Body) :
    (concludeJob s o token body).2 = s ∨
      AtMostOne (takeBody s body).2 (concludeJob s o token body).2 := by
  unfold concludeJob
  cases parameter? token with
  | none => exact Or.inl rfl
  | some text =>
    right
    dsimp only
    generalize takeBody s body = out
    obtain ⟨x,t⟩ := out
    cases x with
    | error reply => exact Or.inl rfl
    | ok bytes =>
      cases tokenOf token with
      | error reply => exact Or.inl rfl
      | ok token =>
        dsimp only
        cases hd : decodeBody Report.shape bytes with
        | error reply => exact Or.inl rfl
        | ok report =>
          refine Or.inr ⟨.conclude o.reading token report.status report.result,⟨bytes,hd⟩,?_⟩
          unfold Services.call Queue.step
          dsimp only
          generalize t.queue.conclude o.reading token report.status report.result = out
          obtain ⟨_ | _,q⟩ := out <;> rfl

/-- Nothing is stored but under a live token, whatever the body. -/
theorem upload_stored (s : Services) (o : Occasion) (token name : List Char) (body : Body) :
    (upload s o token name body).2 = s ∨
    ∃ t job n, tokenOf token = .ok t ∧ s.queue.tokens.live[t]? = some job ∧
      (upload s o token name body).2 = s.stored o.upload job n body := by
  unfold upload
  cases parameter? token with
  | none => exact Or.inl rfl
  | some _ =>
    cases parameter? name with
    | none => exact Or.inl rfl
    | some text =>
      dsimp only
      cases tokenOf token with
      | error reply => exact Or.inl rfl
      | ok t =>
        dsimp only
        unfold store
        cases ArtifactName.parse text with
        | error e => exact Or.inl rfl
        | ok n =>
          dsimp only
          unfold Queue.liveClaim
          cases hl : s.queue.tokens.resolveLive t with
          | error e => exact Or.inl rfl
          | ok job =>
            refine Or.inr ⟨t,job,n,rfl,Registry.resolveLive_ok.mp hl,?_⟩
            simp only [Except.mapError,Services.stored]
            generalize s.artifacts.put s.disk o.upload job n body = out
            obtain ⟨_ | _,d⟩ := out <;> rfl

/-- A request changes nothing, or it is let through at a path where its method is allowed. -/
theorem handle_performs (a : Access) (s : Services) (o : Occasion) (r : Request) :
    (handle a s o r).2 = s ∨
    ∃ e action, Endpoint.ofPath? r.path = some e ∧ e.action? r.method = some action ∧
      (handle a s o r).2 = (perform s o r.body action).2 := by
  unfold handle
  cases Endpoint.ofPath? r.path with
  | none => exact Or.inl rfl
  | some e =>
    dsimp only
    cases ha : e.action? r.method with
    | none => exact Or.inl rfl
    | some action =>
      dsimp only
      split
      · exact Or.inr ⟨e,action,rfl,ha,rfl⟩
      · exact Or.inl rfl

/-- What a request can do: other writers have written while its body came in, files were
uploaded, or one call of the queue was made. -/
inductive Handled (s : Services) : Services → Prop
  | disk (d : Disk) : Handled s (s.withDisk d)
  | call (d : Disk) (a : BuildFarm.Action) (served : Served a) :
    Handled s ((s.withDisk d).call a)

theorem AtMostOne.handled {s t : Services} {d : Disk} (h : AtMostOne (s.withDisk d) t) :
    Handled s t := by
  rcases h with rfl | ⟨a,served,rfl⟩
  · exact .disk d
  · exact .call d a served

theorem takeBody_handled (s : Services) (body : Body) :
    ∃ d, (takeBody s body).2 = s.withDisk d := by
  unfold takeBody
  split <;> exact ⟨_,rfl⟩

theorem perform_handled (s : Services) (o : Occasion) (body : Body) (action : Action) :
    Handled s (perform s o body action).2 := by
  obtain ⟨d,hd⟩ := takeBody_handled s body
  cases action with
  | showStatus => exact .disk s.disk
  | requestJob =>
    have h := requestJob_calls s o body
    rw [hd] at h
    exact h.handled
  | showJob token =>
    have h : AtMostOne (s.withDisk s.disk) (showJob s token).2 := showJob_calls s token
    exact h.handled
  | concludeJob token =>
    rcases concludeJob_calls s o token body with h | h
    · rw [perform,h]
      exact .disk s.disk
    · rw [hd] at h
      exact h.handled
  | upload token name =>
    rcases upload_stored s o token name body with h | ⟨t,job,n,_,_,h⟩
    · rw [perform,h]
      exact .disk s.disk
    · rw [perform,h]
      exact .disk _

theorem handle_handled (a : Access) (s : Services) (o : Occasion) (r : Request) :
    Handled s (handle a s o r).2 := by
  rcases handle_performs a s o r with h | ⟨e,action,_,_,h⟩
  · rw [h]
    exact .disk s.disk
  · rw [h]
    exact perform_handled s o r.body action

end Http.Server

namespace Queue

variable {q : Queue}

theorem Regular.onDisk (h : Regular q) (d : Disk) :
    Regular { q with store := { q.store with disk := d } } :=
  ⟨h.keyed,h.outages,h.sound⟩

theorem Matched.onDisk (h : Matched past es q) (d : Disk) :
    Matched past es { q with store := { q.store with disk := d } } :=
  { h with }

end Queue

namespace Services

/-- The store can be read, and tokens and running jobs belong together. -/
structure Orderly (s : Services) : Prop where
  regular : s.queue.Regular
  faultless : s.queue.store.faults = []
  matched : ∃ past es, Queue.Matched past es s.queue

theorem orderly_start (disk : Disk) (root : Option Path) (artifacts : Artifacts) :
    Orderly (start disk root artifacts) :=
  ⟨Queue.start_regular disk root,rfl,[],[],Queue.matched_start disk root⟩

namespace Orderly

variable {s : Services}

theorem withDisk (h : Orderly s) (d : Disk) : Orderly (s.withDisk d) := by
  obtain ⟨past,es,hm⟩ := h.matched
  exact ⟨h.regular.onDisk d,h.faultless,past,es,hm.onDisk d⟩

theorem call (h : Orderly s) (a : Action) (ha : a.outages = []) : Orderly (s.call a) := by
  obtain ⟨past,es,hm⟩ := h.matched
  refine ⟨Queue.step_regular h.regular a,?_,_,_,(Queue.step_effect h.regular a).2.2.matched
    h.regular hm⟩
  by_cases hp : ∀ os fs, a ≠ .plan os fs
  · exact (Queue.call_effect h.regular a hp).1.faultless h.faultless
  · push Not at hp
    obtain ⟨outages,failures,rfl⟩ := hp
    obtain rfl : outages = [] := ha
    rfl

theorem handled {t : Services} (h : Orderly s) (ht : Http.Server.Handled s t) : Orderly t := by
  cases ht with
  | disk d => exact h.withDisk d
  | call d a served => exact (h.withDisk d).call a served.outages

/-- The jobs of live tokens run. -/
theorem running (h : Orderly s) (t : DispatchToken) (job : JobId)
    (ht : s.queue.tokens.live[t]? = some job) : s.queue.store.Running job := by
  obtain ⟨_,_,hm⟩ := h.matched
  exact hm.live ht

end Orderly

theorem Reached.orderly {i s : Services} (hi : Orderly i) (h : Reached i s) : Orderly s := by
  induction h with
  | start => exact hi
  | call _ a calls ih => exact ih.call a calls
  | request _ access o r ih => exact ih.handled (Http.Server.handle_handled access _ o r)

end Services

end BuildFarm
