import BuildFarm.Proofs.Queue.Lasting
import BuildFarm.Proofs.Registry
import BuildFarm.Proofs.Store.Renaming

namespace BuildFarm

namespace Registry

/-- The same tokens, for the jobs of the other ids. -/
structure Renamed (ρ : JobId → JobId) (r s : Registry) : Prop where
  ttl : s.ttl = r.ttl
  capacity : s.capacity = r.capacity
  order : s.order = r.order
  live : ∀ t : DispatchToken, s.live[t]? = r.live[t]?.map ρ
  retired : ∀ t : DispatchToken, s.retired[t]? = r.retired[t]?.map ρ

/-- The job has a token. -/
def Binds (r : Registry) (job : JobId) : Prop :=
  ∃ t : DispatchToken, r.live[t]? = some job ∨ r.retired[t]? = some job

theorem getElem?_insert_map {ρ : JobId → JobId} {a b : Std.HashMap DispatchToken JobId}
    (h : ∀ t : DispatchToken, b[t]? = a[t]?.map ρ) (t u : DispatchToken) (job : JobId) :
    (b.insert t (ρ job))[u]? = (a.insert t job)[u]?.map ρ := by
  rw [Std.HashMap.getElem?_insert,Std.HashMap.getElem?_insert]
  split
  · rfl
  · exact h u

theorem getElem?_erase_map {ρ : JobId → JobId} {a b : Std.HashMap DispatchToken JobId}
    (h : ∀ t : DispatchToken, b[t]? = a[t]?.map ρ) (t u : DispatchToken) :
    (b.erase t)[u]? = (a.erase t)[u]?.map ρ := by
  rw [Std.HashMap.getElem?_erase,Std.HashMap.getElem?_erase]
  split
  · rfl
  · exact h u

theorem contains_map {ρ : JobId → JobId} {a b : Std.HashMap DispatchToken JobId}
    (h : ∀ t : DispatchToken, b[t]? = a[t]?.map ρ) (t : DispatchToken) :
    b.contains t = a.contains t := by
  rw [Std.HashMap.contains_eq_isSome_getElem?,Std.HashMap.contains_eq_isSome_getElem?,h t,
    Option.isSome_map]

namespace Renamed

variable {ρ : JobId → JobId} {r s : Registry}

theorem pruneFrom (h : Renamed ρ r s) (now bound : Nat) :
    Renamed ρ (r.pruneFrom now bound) (s.pruneFrom now bound) := by
  induction bound generalizing r s with
  | zero => exact h
  | succ n ih =>
    have hstale (since : Nat) : s.isStale now since = r.isStale now since := by
      simp only [isStale,h.ttl,h.capacity,h.order]
    unfold Registry.pruneFrom
    rw [h.order]
    cases r.order.head? with
    | none => exact h
    | some e =>
      obtain ⟨since,t⟩ := e
      dsimp only
      rw [hstale]
      split
      · exact ih ⟨h.ttl,h.capacity,rfl,h.live,fun u => getElem?_erase_map h.retired t u⟩
      · exact h

theorem prune (h : Renamed ρ r s) (now : Nat) : Renamed ρ (r.prune now) (s.prune now) := by
  unfold Registry.prune
  rw [h.order]
  exact h.pruneFrom now _

theorem isTaken (h : Renamed ρ r s) (t : DispatchToken) : s.isTaken t = r.isTaken t := by
  unfold Registry.isTaken
  rw [contains_map h.live,contains_map h.retired]

theorem issue? (h : Renamed ρ r s) (now : Nat) (draws : List DispatchToken) (job : JobId) :
    (r.issue? now draws job = none ∧ s.issue? now draws (ρ job) = none) ∨
    ∃ t r' s', r.issue? now draws job = some (t,r') ∧ s.issue? now draws (ρ job) = some (t,s') ∧
      Renamed ρ r' s' := by
  have hp := h.prune now
  unfold Registry.issue?
  simp only [hp.isTaken]
  cases draws.find? (fun t => !(r.prune now).isTaken t) with
  | none => exact Or.inl ⟨rfl,rfl⟩
  | some t =>
    exact Or.inr ⟨t,_,_,rfl,rfl,
      { hp with live := fun u => getElem?_insert_map hp.live t u job }⟩

theorem resolveLive (h : Renamed ρ r s) (t : DispatchToken) :
    Both Eq (fun i j => j = ρ i ∧ r.Binds i) (r.resolveLive t) (s.resolveLive t) := by
  unfold Registry.resolveLive
  rw [h.live,contains_map h.retired]
  cases hl : r.live[t]? with
  | none => exact .error rfl
  | some job => exact .ok ⟨rfl,t,Or.inl hl⟩

theorem resolve (h : Renamed ρ r s) (t : DispatchToken) :
    Both Eq (fun i j => j = ρ i ∧ r.Binds i) (r.resolve t) (s.resolve t) := by
  unfold Registry.resolve
  rw [h.live,h.retired]
  cases hl : r.live[t]? with
  | some job => exact .ok ⟨rfl,t,Or.inl hl⟩
  | none =>
    cases hr : r.retired[t]? with
    | some job => exact .ok ⟨rfl,t,Or.inr hr⟩
    | none => exact .error rfl

theorem retire (h : Renamed ρ r s) (now : Nat) (t : DispatchToken) :
    Renamed ρ (r.retire now t).2 (s.retire now t).2 := by
  unfold Registry.retire Registry.retireAt
  rw [h.live]
  cases r.live[t]? with
  | none => exact h.prune now
  | some job =>
    have hn : Renamed ρ
        { r with
          live := r.live.erase t
          retired := r.retired.insert t job
          order := r.order.push (now,t) }
        { s with
          live := s.live.erase t
          retired := s.retired.insert t (ρ job)
          order := s.order.push (now,t) } :=
      ⟨h.ttl,h.capacity,by rw [h.order],fun u => getElem?_erase_map h.live t u,
        fun u => getElem?_insert_map h.retired t u job⟩
    exact hn.prune now

end Renamed

theorem Binds.of_pruneFrom {r : Registry} {now bound : Nat}
    (h : (r.pruneFrom now bound).Binds job) : r.Binds job := by
  induction bound generalizing r with
  | zero => exact h
  | succ n ih =>
    unfold pruneFrom at h
    split at h
    · exact h
    · split at h
      · obtain ⟨u,hu⟩ := ih h
        exact ⟨u,hu.imp_right ((r.forgetFirst_forgets _).retired u job)⟩
      · exact h

theorem Binds.of_issue {r s : Registry} (hi : r.issue? now draws new = some (t,s))
    (h : s.Binds job) : job = new ∨ r.Binds job := by
  unfold issue? at hi
  dsimp only at hi
  split at hi
  · cases hi
  · cases hi
    obtain ⟨u,hu⟩ := h
    dsimp only at hu
    rw [Std.HashMap.getElem?_insert] at hu
    split at hu
    · rcases hu with hu | hu
      · exact Or.inl (Option.some.inj hu).symm
      · exact Or.inr (Binds.of_pruneFrom ⟨u,Or.inr hu⟩)
    · exact Or.inr (Binds.of_pruneFrom ⟨u,hu⟩)

theorem Binds.of_retire {r : Registry} (h : (r.retire now t).2.Binds job) : r.Binds job := by
  unfold retire retireAt at h
  cases hl : r.live[t]? with
  | none =>
    rw [hl] at h
    exact Binds.of_pruneFrom h
  | some j =>
    rw [hl] at h
    obtain ⟨u,hu⟩ := Binds.of_pruneFrom h
    dsimp only at hu
    rw [Std.HashMap.getElem?_erase,Std.HashMap.getElem?_insert] at hu
    split at hu
    · rcases hu with hu | hu
      · cases hu
      · exact ⟨t,Or.inl (hl.trans hu)⟩
    · exact ⟨u,hu⟩

end Registry

/-- Errors that are the same but for what is wrong with the store. -/
inductive QueueError.Alike : QueueError → QueueError → Prop
  | same (e : QueueError) : Alike e e
  | store (e f : StoreError) : Alike (.store e) (.store f)

theorem QueueError.alike_ofStore {ρ : JobId → JobId} {missing : JobId → Prop} {e f : StoreError}
    (h : e.Alike ρ missing f) (hm : ∀ i, missing i → ρ i = i) : Alike (ofStore e) (ofStore f) := by
  cases h with
  | same => exact .same _
  | storage m n => exact .store _ _
  | @notFound id h =>
    rw [hm id h]
    exact .same _
  | alreadyExists id => exact .store _ _

/-- The same claim on a job of another id. -/
def Claim.renamed (ρ : JobId → JobId) (c : Claim) : Claim :=
  { c with id := ρ c.id }

namespace Queue

open Store

/-- The same queue but for the ids. What has a token has a record, or no other id. -/
structure Renamed (x : Exchange) (q p : Queue) : Prop where
  store : q.store.Renamed x p.store
  tokens : q.tokens.Renamed x.ids p.tokens
  bound : ∀ job, q.tokens.Binds job → x.ids job = job ∨ (q.store.find? job).isSome

/-- Answers that belong together, with what became of the queues. -/
structure Outcomes (x : Exchange) (r : α → β → Prop) (a : α × Queue) (b : β × Queue) : Prop where
  answer : r a.1 b.1
  queue : Renamed x a.2 b.2

section Reads

variable {x : Exchange} {s t : Store}

theorem checkAll_renamed (h : s.Renamed x t) {ds : List JobId} (hd : ∀ d ∈ ds, x.ids d = d) :
    Store.Outcomes x (Both (fun _ _ => True) Eq) (checkAll s ds) (checkAll t ds) := by
  induction ds generalizing s t with
  | nil => exact ⟨.ok rfl,h⟩
  | cons d ds ih =>
    rw [List.forall_mem_cons] at hd
    have hg := h.get d
    rw [hd.1] at hg
    obtain ⟨hg,h⟩ := hg
    unfold checkAll
    generalize s.get d = a at hg h ⊢
    generalize t.get d = b at hg h ⊢
    obtain ⟨a,s⟩ := a
    obtain ⟨b,t⟩ := b
    cases hg with
    | ok _ => exact ih h hd.2
    | @error e f he =>
      cases he with
      | same => cases e <;> exact ⟨.error trivial,h⟩
      | storage m n => exact ⟨.error trivial,h⟩
      | notFound _ => exact ⟨.error trivial,h⟩
      | alreadyExists _ => exact ⟨.error trivial,h⟩

theorem results_renamed (h : s.Renamed x t) (read : List (JobId × Json)) {ds : List JobId}
    (hd : ∀ d ∈ ds, x.ids d = d) :
    Store.Outcomes x (Both QueueError.Alike Eq) (results s read ds) (results t read ds) := by
  induction ds generalizing s t read with
  | nil => exact ⟨.ok rfl,h⟩
  | cons d ds ih =>
    rw [List.forall_mem_cons] at hd
    have hg := h.get d
    rw [hd.1] at hg
    obtain ⟨hg,h⟩ := hg
    unfold results
    generalize s.get d = a at hg h ⊢
    generalize t.get d = b at hg h ⊢
    obtain ⟨a,s'⟩ := a
    obtain ⟨b,t'⟩ := b
    cases hg with
    | error he => exact ⟨.error (QueueError.alike_ofStore he (fun _ hi => hi.1 ▸ hd.1)),h⟩
    | @ok j k hj =>
      subst hj
      exact ih h _ hd.2

theorem dynamicArgs_renamed (h : s.Renamed x t) {j : Job} (hd : ∀ d ∈ j.dependencies, x.ids d = d) :
    Store.Outcomes x (Both QueueError.Alike Eq) (dynamicArgs s j)
      (dynamicArgs t (j.renamed x.ids)) := by
  unfold dynamicArgs
  simp only [show (j.renamed x.ids).dependencies = j.dependencies from rfl]
  split
  · exact ⟨.ok rfl,h⟩
  · obtain ⟨hr,h⟩ := results_renamed h [] hd
    generalize results s [] j.dependencies = a at hr h ⊢
    generalize results t [] j.dependencies = b at hr h ⊢
    obtain ⟨a,s⟩ := a
    obtain ⟨b,t⟩ := b
    cases hr with
    | error he => exact ⟨.error he,h⟩
    | ok hr =>
      subst hr
      exact ⟨.ok rfl,h⟩

end Reads

namespace Renamed

variable {x : Exchange} {q p : Queue} {s t : Store}

/-- Where no record is lost, the same tokens will do. -/
theorem stored (h : Renamed x q p) (hs : s.Renamed x t)
    (hl : ∀ id, (q.store.find? id).isSome → (s.find? id).isSome) :
    Renamed x { q with store := s } { p with store := t } where
  store := hs
  tokens := h.tokens
  bound job hb := (h.bound job hb).imp_right (hl job)

theorem enqueue (h : Renamed x q p) {id : JobId} (hk : x.known id) {ds : List JobId}
    (hd : ∀ d ∈ ds, x.ids d = d) (now : Instant) (type : JobType) (args : Json) :
    Renamed x (q.enqueue id now type args ds).2 (p.enqueue (x.ids id) now type args ds).2 := by
  have hl (i : JobId) (hi : (q.store.find? i).isSome) :=
    enqueue_kept (found_lasting i).kept hi id now type args ds
  have hd : ∀ d ∈ ds.eraseDups, x.ids d = d := fun d hm => hd d (List.mem_eraseDups.mp hm)
  obtain ⟨hc,hs⟩ := checkAll_renamed h.store hd
  unfold Queue.enqueue at hl ⊢
  dsimp only at hl ⊢
  generalize checkAll q.store ds.eraseDups = a at hc hs hl ⊢
  generalize checkAll p.store ds.eraseDups = b at hc hs ⊢
  obtain ⟨a,s⟩ := a
  obtain ⟨b,t⟩ := b
  cases hc with
  | error _ => exact h.stored hs hl
  | ok _ =>
    obtain ⟨hj,hs⟩ := hs.create (j := Job.make id type args ds.eraseDups now) hk hd
    change Both _ _ _ (t.create (Job.make (x.ids id) type args ds.eraseDups now)).1 at hj
    change Store.Renamed _ _ (t.create (Job.make (x.ids id) type args ds.eraseDups now)).2 at hs
    dsimp only at hl ⊢
    generalize s.create (Job.make id type args ds.eraseDups now) = a at hj hs hl ⊢
    generalize t.create (Job.make (x.ids id) type args ds.eraseDups now) = b at hj hs ⊢
    obtain ⟨a,s⟩ := a
    obtain ⟨b,t⟩ := b
    cases hj <;> exact h.stored hs hl

theorem cancel (h : Renamed x q p) (id : JobId) :
    Renamed x (q.cancel id).2 (p.cancel (x.ids id)).2 := by
  have hl (i : JobId) (hi : (q.store.find? i).isSome) := cancel_kept (found_lasting i).kept hi id
  obtain ⟨hu,hs⟩ := h.store.update id [.cancel]
  unfold Queue.cancel at hl ⊢
  generalize q.store.update id [.cancel] = a at hu hs hl ⊢
  generalize p.store.update (x.ids id) [.cancel] = b at hu hs ⊢
  obtain ⟨a,s⟩ := a
  obtain ⟨b,t⟩ := b
  cases hu <;> exact h.stored hs hl

/-- What is not found under a token is no job with another id. -/
theorem steady (h : Renamed x q p) {id : JobId} (hb : q.tokens.Binds id) (i : JobId)
    (hm : i = id ∧ q.store.find? i = none) : x.ids i = i := by
  obtain ⟨rfl,hn⟩ := hm
  rcases h.bound i hb with hi | hi
  · exact hi
  · rw [hn] at hi
    cases hi

theorem isCanceled (h : Renamed x q p) (token : DispatchToken) :
    Outcomes x (Both QueueError.Alike Eq) (q.isCanceled token) (p.isCanceled token) := by
  have hr := h.tokens.resolve token
  unfold Queue.isCanceled
  generalize q.tokens.resolve token = a at hr ⊢
  generalize p.tokens.resolve token = b at hr ⊢
  cases hr with
  | error he => exact ⟨.error (he ▸ .same _),h⟩
  | @ok id _ hid =>
    obtain ⟨rfl,hb⟩ := hid
    have hl (i : JobId) (hi : (q.store.find? i).isSome) := (found_lasting i).get q.store id hi
    obtain ⟨hg,hs⟩ := h.store.get id
    dsimp only
    generalize q.store.get id = a at hg hs hl ⊢
    generalize p.store.get (x.ids id) = b at hg hs ⊢
    obtain ⟨a,s⟩ := a
    obtain ⟨b,t⟩ := b
    cases hg with
    | error he => exact ⟨.error (QueueError.alike_ofStore he (h.steady hb)),h.stored hs hl⟩
    | @ok j k hj =>
      subst hj
      exact ⟨.ok rfl,h.stored hs hl⟩

theorem liveClaim (h : Renamed x q p) (token : DispatchToken) :
    Both Eq (fun i j => j = x.ids i) (q.liveClaim token) (p.liveClaim token) := by
  have hr := h.tokens.resolveLive token
  unfold Queue.liveClaim
  generalize q.tokens.resolveLive token = a at hr ⊢
  generalize p.tokens.resolveLive token = b at hr ⊢
  cases hr with
  | error he => exact .error (congrArg _ he)
  | ok hi => exact .ok hi.1

/-- The token of a job is retired in both. -/
theorem retired (h : Renamed x q p) (hs : s.Renamed x t)
    (hl : ∀ id, (q.store.find? id).isSome → (s.find? id).isSome) (now : Nat)
    (token : DispatchToken) :
    Renamed x ⟨s,(q.tokens.retire now token).2⟩ ⟨t,(p.tokens.retire now token).2⟩ where
  store := hs
  tokens := h.tokens.retire now token
  bound job hb := (h.bound job hb.of_retire).imp_right (hl job)

theorem conclude (h : Renamed x q p) (r : Reading) (token : DispatchToken)
    (status : Option JobStatus) (result : Option Json) :
    Outcomes x (Both QueueError.Alike Eq) (q.conclude r token status result)
      (p.conclude r token status result) := by
  have hr := h.tokens.resolveLive token
  unfold Queue.conclude
  generalize q.tokens.resolveLive token = a at hr ⊢
  generalize p.tokens.resolveLive token = b at hr ⊢
  cases hr with
  | error he => exact ⟨.error (he ▸ .same _),h⟩
  | @ok id _ hid =>
    obtain ⟨rfl,hb⟩ := hid
    dsimp only
    split
    · have hl (i : JobId) (hi : (q.store.find? i).isSome) :=
        (found_lasting i).update q.store id [.conclude (status.getD .finished) result r.now] hi
      obtain ⟨hu,hs⟩ := h.store.update id [.conclude (status.getD .finished) result r.now]
      generalize q.store.update id [.conclude (status.getD .finished) result r.now] = a
        at hu hs hl ⊢
      generalize p.store.update (x.ids id) [.conclude (status.getD .finished) result r.now] = b
        at hu hs ⊢
      obtain ⟨a,s⟩ := a
      obtain ⟨b,t⟩ := b
      cases hu with
      | ok _ => exact ⟨.ok rfl,h.retired hs hl r.uptime token⟩
      | @error e f he =>
        have ha := QueueError.alike_ofStore he (h.steady hb)
        cases he with
        | same =>
          cases e
          case invalidTransition => exact ⟨.error (.same _),h.retired hs hl r.uptime token⟩
          all_goals exact ⟨.error ha,h.stored hs hl⟩
        | storage m n => exact ⟨.error ha,h.stored hs hl⟩
        | notFound _ => exact ⟨.error ha,h.stored hs hl⟩
        | alreadyExists _ => exact ⟨.error ha,h.stored hs hl⟩
    · exact ⟨.error (.same _),h⟩

theorem request (h : Renamed x q p) (r : Reading) (draws : List DispatchToken) (f : ClaimFilter) :
    Outcomes x (Both QueueError.Alike (fun a b => b = a.map (Claim.renamed x.ids)))
      (q.request r draws f) (p.request r draws f) := by
  have hl (i : JobId) (hi : (q.store.find? i).isSome) :=
    request_kept (found_lasting i).kept hi r draws f
  obtain ⟨hn,hs⟩ := h.store.next f r.now
  unfold Queue.request at hl ⊢
  generalize q.store.next f r.now = a at hn hs hl ⊢
  generalize p.store.next f r.now = b at hn hs ⊢
  obtain ⟨a,s⟩ := a
  obtain ⟨b,t⟩ := b
  cases hn with
  | error he => exact ⟨.error (QueueError.alike_ofStore he nofun),h.stored hs hl⟩
  | @ok a b hab =>
    obtain ⟨rfl,hj⟩ := hab
    cases a with
    | none => exact ⟨.ok rfl,h.stored hs hl⟩
    | some j =>
      obtain ⟨hfound,hd⟩ := hj j rfl
      obtain ⟨ha,hs⟩ := dynamicArgs_renamed hs hd
      dsimp only [Option.map_some] at hl ⊢
      generalize dynamicArgs s j = a at ha hs hl ⊢
      generalize dynamicArgs t (j.renamed x.ids) = b at ha hs ⊢
      obtain ⟨a,s⟩ := a
      obtain ⟨b,t⟩ := b
      cases ha with
      | error he => exact ⟨.error he,h.stored (hs.update j.id [.release]).store hl⟩
      | ok he =>
        subst he
        dsimp only at hl ⊢
        rw [show (j.renamed x.ids).id = x.ids j.id from rfl]
        rcases h.tokens.issue? r.uptime draws j.id with ⟨hi,hi'⟩ | ⟨token,_,_,hi,hi',ht⟩
        · rw [hi] at hl ⊢
          rw [hi']
          exact ⟨.error (.same _),h.stored hs hl⟩
        · rw [hi] at hl ⊢
          rw [hi']
          refine ⟨.ok rfl,hs,ht,?_⟩
          intro job hb
          rcases hb.of_issue hi with rfl | hb
          · exact Or.inr (hl _ hfound)
          · exact (h.bound job hb).imp_right (hl job)

end Renamed

end Queue

end BuildFarm
