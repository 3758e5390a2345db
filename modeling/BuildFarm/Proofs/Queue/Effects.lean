import BuildFarm.Proofs.Queue.Run
import BuildFarm.Proofs.Registry
import BuildFarm.Proofs.Store.Effects

namespace BuildFarm

namespace Store

/-- What a dependent is told of a job: its result, and null for none. -/
def resultOf (s : Store) (d : JobId) : Json :=
  .ofOption ((s.find? d).bind Job.result)

def resultsFor (s : Store) (j : Job) : Option (List (JobId × Json)) :=
  if j.dependencies.isEmpty then none
  else some (j.dependencies.foldl (fun es d => Entries.set es d (s.resultOf d)) [])

/-- The claim of a job changes no result. -/
theorem Sets.resultsFor {s t : Store} (h : Sets s t old.id (old.taken now))
    (hold : s.find? old.id = some old) (hj : j.dependencies = k.dependencies) :
    t.resultsFor j = s.resultsFor k := by
  have hr : ∀ d, t.resultOf d = s.resultOf d := by
    intro d
    by_cases hd : old.id = d
    · subst hd
      simp [resultOf,h.self,hold]
    · simp [resultOf,h.other hd]
  simp only [Store.resultsFor,hr,hj]

theorem dependenciesFinished_mem {s : Store} (h : s.dependenciesFinished j = true)
    (hd : d ∈ j.dependencies) : ∃ r, s.find? d = some r ∧ r.status = .finished :=
  dependenciesFinished_iff.mp h d hd

end Store

namespace Queue

open Store

structure Regular (q : Queue) : Prop where
  keyed : q.store.Keyed
  outages : q.store.OnlyOutages
  sound : q.tokens.Sound

/-- All that a call can do, and what is told of it. -/
inductive Effect (q : Queue) : Action → List Event → Queue → Prop
  | idle (keeps : q.store.Keeps t) : Effect q a [] ⟨t,q.tokens⟩
  | enqueued {id : JobId} (absent : q.store.find? id = none)
      (known : ∀ d ∈ ds, (q.store.find? d).isSome)
      (sets : q.store.Sets t id (.make id type args ds.eraseDups now)) :
      Effect q (.enqueue id now type args ds) [.enqueued id type args ds] ⟨t,q.tokens⟩
  | claimed {tokens : Registry} (found : q.store.find? old.id = some old)
      (accepts : f.accepts old = true)
      (finished : q.store.dependenciesFinished old = true)
      (issued : q.tokens.issue? r.uptime draws old.id = some (token,tokens))
      (sets : q.store.Sets t old.id (old.taken r.now)) :
      Effect q (.request r draws f)
        [.claimed ⟨token,old.id,old.type,old.args,q.store.resultsFor old⟩] ⟨t,tokens⟩
  /-- No token was drawn that is not taken. -/
  | unnamed (found : q.store.find? old.id = some old) (accepts : f.accepts old = true)
      (taken : q.tokens.issue? r.uptime draws old.id = none)
      (sets : q.store.Sets t old.id (old.taken r.now)) :
      Effect q (.request r draws f) [] ⟨t,q.tokens⟩
  | released (found : q.store.find? old.id = some old) (accepts : f.accepts old = true)
      (sets : q.store.Sets t old.id (old.taken r.now).returned) :
      Effect q (.request r draws f) [] ⟨t,q.tokens⟩
  | stranded (found : q.store.find? old.id = some old) (accepts : f.accepts old = true)
      (sets : q.store.Sets t old.id (old.taken r.now)) :
      Effect q (.request r draws f) [.stranded old.id] ⟨t,q.tokens⟩
  | concluded (live : q.tokens.live[token]? = some job) (found : q.store.find? job = some old)
      (running : old.status = .running) (terminal : (status.getD .finished).isTerminal = true)
      (sets : q.store.Sets t job (old.ended (status.getD .finished) result r.now)) :
      Effect q (.conclude r token status result)
        [.concluded token job (status.getD .finished) result r.now]
        ⟨t,(q.tokens.retire r.uptime token).2⟩
  /-- The job behind a live token does not run. -/
  | lapsed (live : q.tokens.live[token]? = some job) (found : q.store.find? job = some old)
      (running : old.status ≠ .running) (keeps : q.store.Keeps t) :
      Effect q (.conclude r token status result) [] ⟨t,(q.tokens.retire r.uptime token).2⟩
  | canceled {id : JobId} (found : q.store.find? id = some old)
      (sets : q.store.Sets t id old.cancel) :
      Effect q (.cancel id) [.canceled id] ⟨t,q.tokens⟩

/-- A call of which nothing is told leaves the records and tokens alone. -/
theorem Effect.quiet {q : Queue} {t : Store} (h : t.index = q.store.index) :
    Effect q a [] ⟨t,q.tokens⟩ :=
  .idle (.of_index h)

theorem checkAll_cases {s t : Store} (ho : s.OnlyOutages) (h : checkAll s ds = (r,t)) :
    Follows s t ∧ t.index = s.index ∧
      ((∃ e, r = .error e) ∨ (r = .ok () ∧ ∀ d ∈ ds, (s.find? d).isSome)) := by
  induction ds generalizing s with
  | nil =>
    cases h
    exact ⟨.refl _,rfl,Or.inr ⟨rfl,by simp⟩⟩
  | cons d ds ih =>
    simp only [checkAll] at h
    cases hg : s.get d with
    | mk x u =>
      obtain ⟨hf,hi,hx⟩ := get_cases ho hg
      rw [hg] at h
      rcases hx with ⟨m,rfl⟩ | ⟨rfl,_⟩ | ⟨j,rfl,hj⟩
      · cases h
        exact ⟨hf,hi,Or.inl ⟨_,rfl⟩⟩
      · cases h
        exact ⟨hf,hi,Or.inl ⟨_,rfl⟩⟩
      · obtain ⟨hf',hi',hr⟩ := ih (hf.outages ho) h
        refine ⟨hf.trans hf',hi'.trans hi,hr.imp_right ?_⟩
        rintro ⟨hr,hds⟩
        refine ⟨hr,?_⟩
        intro e he
        rcases List.mem_cons.mp he with rfl | he
        · simp [hj]
        · simpa [find?_congr hi] using hds e he

theorem results_cases {s t : Store} {read : List (JobId × Json)} (ho : s.OnlyOutages)
    (h : results s read ds = (r,t)) :
    Follows s t ∧ t.index = s.index ∧
      ((∃ e, r = .error e) ∨
        r = .ok (ds.foldl (fun es d => Entries.set es d (s.resultOf d)) read)) := by
  induction ds generalizing s read with
  | nil =>
    cases h
    exact ⟨.refl _,rfl,Or.inr rfl⟩
  | cons d ds ih =>
    simp only [results] at h
    cases hg : s.get d with
    | mk x u =>
      obtain ⟨hf,hi,hx⟩ := get_cases ho hg
      rw [hg] at h
      rcases hx with ⟨m,rfl⟩ | ⟨rfl,_⟩ | ⟨j,rfl,hj⟩
      · cases h
        exact ⟨hf,hi,Or.inl ⟨_,rfl⟩⟩
      · cases h
        exact ⟨hf,hi,Or.inl ⟨_,rfl⟩⟩
      · obtain ⟨hf',hi',hr⟩ := ih (hf.outages ho) h
        refine ⟨hf.trans hf',hi'.trans hi,hr.imp_right ?_⟩
        rintro rfl
        have hd : s.resultOf d = .ofOption j.result := by simp [resultOf,hj]
        simp only [List.foldl_cons,resultOf,find?_congr hi] at hd ⊢
        rw [hd]

theorem dynamicArgs_cases {s t : Store} (ho : s.OnlyOutages) (h : dynamicArgs s j = (r,t)) :
    Follows s t ∧ t.index = s.index ∧ ((∃ e, r = .error e) ∨ r = .ok (s.resultsFor j)) := by
  simp only [dynamicArgs] at h
  split at h
  · rename_i he
    cases h
    exact ⟨.refl s,rfl,Or.inr (by simp [resultsFor,he])⟩
  · rename_i he
    cases hr : results s [] j.dependencies with
    | mk x u =>
      obtain ⟨hf,hi,hx⟩ := results_cases ho hr
      rw [hr] at h
      rcases hx with ⟨e,rfl⟩ | rfl
      · cases h
        exact ⟨hf,hi,Or.inl ⟨e,rfl⟩⟩
      · cases h
        exact ⟨hf,hi,Or.inr (by simp [resultsFor,he])⟩

theorem enqueue_effect {q : Queue} (ho : q.store.OnlyOutages) (id : JobId) (now : Instant)
    (type : JobType) (args : Json) (ds : List JobId) :
    q.store.Follows (q.step (.enqueue id now type args ds)).store ∧
      Effect q (.enqueue id now type args ds) (q.events (.enqueue id now type args ds))
        (q.step (.enqueue id now type args ds)) := by
  simp only [events,step,enqueue]
  cases hc : checkAll q.store ds.eraseDups with
  | mk r s =>
    obtain ⟨hf,hi,hr⟩ := checkAll_cases ho hc
    rcases hr with ⟨e,rfl⟩ | ⟨rfl,hds⟩
    · exact ⟨hf,.quiet hi⟩
    · dsimp only
      cases hm : s.create (Job.make id type args ds.eraseDups now) with
      | mk r t =>
        obtain ⟨hf',hr⟩ := create_cases (hf.outages ho) hm
        rcases hr with ⟨e,rfl,ht,_⟩ | ⟨rfl,hn,ht⟩
        · exact ⟨hf.trans hf',.quiet (ht.trans hi)⟩
        · refine ⟨hf.trans hf',.enqueued ?_ ?_ ?_⟩
          · exact (find?_congr hi id).symm.trans hn
          · intro d hd
            exact hds d (List.mem_eraseDups.mpr hd)
          · rw [hi] at ht
            exact .of_insert (congrArg Index.records ht)

/-- A claim that is to be given back stays with the job where its record cannot be written. -/
theorem release_effect {q : Queue} {u : Store} (draws : List DispatchToken)
    (found : q.store.find? old.id = some old) (accepts : f.accepts old = true)
    (ho : u.OnlyOutages) (hu : q.store.Sets u old.id (old.taken r.now)) :
    u.Follows (u.update old.id [.release]).2 ∧
      Effect q (.request r draws f)
        ((match (u.update old.id [.release]).1 with
          | .error _ => some old.id
          | .ok _ => none).toList.map .stranded)
        ⟨(u.update old.id [.release]).2,q.tokens⟩ := by
  cases hr : u.update old.id [.release] with
  | mk x t =>
    obtain ⟨hf,hx⟩ := update_cases ho hr
    refine ⟨hf,?_⟩
    have hkept (ht : t.index = u.index) : q.store.Sets t old.id (old.taken r.now) :=
      fun i => (find?_congr ht i).trans (hu i)
    rcases hx with ⟨m,rfl,ht⟩ | ⟨rfl,_,ht⟩ | ⟨k,e,_,_,rfl,ht⟩ | ⟨k,new,hk,hc,rfl,ht⟩
    · exact .stranded found accepts (hkept ht)
    · exact .stranded found accepts (hkept ht)
    · exact .stranded found accepts (hkept ht)
    · cases hu.self.symm.trans hk
      rw [Job.changeAll_singleton] at hc
      cases hc
      exact .released found accepts (hu.trans (.of_insert (congrArg Index.records ht)))

theorem request_effect {q : Queue} (hq : Regular q) (r : Reading) (draws : List DispatchToken)
    (f : ClaimFilter) :
    q.store.Follows (q.step (.request r draws f)).store ∧
      Effect q (.request r draws f) (q.events (.request r draws f))
        (q.step (.request r draws f)) := by
  simp only [events,step,request,stranded?]
  cases hn : q.store.next f r.now with
  | mk x s =>
    obtain ⟨hf,hx⟩ := next_cases hq.outages hn
    rcases hx with ⟨m,rfl,hi⟩ | ⟨rfl,hi⟩ | ⟨id,old,hold,ha,hd,rfl,hi⟩
    · exact ⟨hf,.quiet hi⟩
    · exact ⟨hf,.quiet hi⟩
    · have hid : old.id = id := hq.keyed id old hold
      subst hid
      have hs : q.store.Sets s old.id (old.taken r.now) := .of_insert (congrArg Index.records hi)
      dsimp only
      cases hg : dynamicArgs s (old.taken r.now) with
      | mk x u =>
        obtain ⟨hf',hu,hx⟩ := dynamicArgs_cases (hf.outages hq.outages) hg
        have hsu : q.store.Sets u old.id (old.taken r.now) :=
          fun i => (find?_congr hu i).trans (hs i)
        have hfu := hf.trans hf'
        rcases hx with ⟨e,rfl⟩ | rfl
        · obtain ⟨hft,he⟩ := release_effect draws hold ha (hfu.outages hq.outages) hsu
          exact ⟨hfu.trans hft,he⟩
        · rw [hs.resultsFor hold rfl]
          simp only [Job.taken_id,Job.taken_type,Job.taken_args]
          cases ht : q.tokens.issue? r.uptime draws old.id with
          | none => exact ⟨hfu,.unnamed hold ha ht hsu⟩
          | some p =>
            obtain ⟨token,tokens⟩ := p
            exact ⟨hfu,.claimed hold ha hd ht hsu⟩

theorem request_issued {q : Queue} {s t : Store} {tokens : Registry}
    (hn : q.store.next f r.now = (.ok (some j),s)) (hd : dynamicArgs s j = (.ok extra,t))
    (hi : q.tokens.issue? r.uptime draws j.id = some (token,tokens)) :
    q.request r draws f = (.ok (some ⟨token,j.id,j.type,j.args,extra⟩),⟨t,tokens⟩) := by
  simp only [request,hn,hd,hi]

theorem conclude_effect {q : Queue} (ho : q.store.OnlyOutages) (r : Reading)
    (token : DispatchToken) (status : Option JobStatus) (result : Option Json) :
    q.store.Follows (q.step (.conclude r token status result)).store ∧
      Effect q (.conclude r token status result) (q.events (.conclude r token status result))
        (q.step (.conclude r token status result)) := by
  simp only [events,step,conclude,liveClaim]
  cases hl : q.tokens.resolveLive token with
  | error e => exact ⟨.refl _,.quiet rfl⟩
  | ok job =>
    have hlive := Registry.resolveLive_ok.mp hl
    simp only [Except.mapError]
    by_cases ht : (status.getD .finished).isTerminal = true
    · simp only [ht,↓reduceIte]
      cases hu : q.store.update job [.conclude (status.getD .finished) result r.now] with
      | mk x t =>
        obtain ⟨hf,hx⟩ := update_cases ho hu
        rcases hx with ⟨m,rfl,hi⟩ | ⟨rfl,hn,hi⟩ | ⟨old,e,hold,hc,rfl,hi⟩ | ⟨old,new,hold,hc,rfl,hi⟩
        · exact ⟨hf,.quiet hi⟩
        · exact ⟨hf,.quiet hi⟩
        · rw [Job.changeAll_singleton] at hc
          rcases old.conclude_cases result r.now ht with ⟨hr,he⟩ | ⟨hr,he⟩
          · cases he.symm.trans hc
          · cases he.symm.trans hc
            exact ⟨hf,.lapsed hlive hold hr (.of_index hi)⟩
        · rw [Job.changeAll_singleton] at hc
          rcases old.conclude_cases result r.now ht with ⟨hr,he⟩ | ⟨hr,he⟩
          · cases he.symm.trans hc
            exact ⟨hf,.concluded hlive hold hr ht (.of_insert (congrArg Index.records hi))⟩
          · cases he.symm.trans hc
    · simp only [ht]
      exact ⟨.refl _,.quiet rfl⟩

theorem cancel_effect {q : Queue} (ho : q.store.OnlyOutages) (id : JobId) :
    q.store.Follows (q.step (.cancel id)).store ∧
      Effect q (.cancel id) (q.events (.cancel id)) (q.step (.cancel id)) := by
  simp only [events,step,cancel]
  cases hu : q.store.update id [.cancel] with
  | mk x t =>
    obtain ⟨hf,hx⟩ := update_cases ho hu
    rcases hx with ⟨m,rfl,hi⟩ | ⟨rfl,hn,hi⟩ | ⟨old,e,hold,hc,rfl,hi⟩ | ⟨old,new,hold,hc,rfl,hi⟩
    · exact ⟨hf,.quiet hi⟩
    · exact ⟨hf,.quiet hi⟩
    · exact ⟨hf,.quiet hi⟩
    · cases hc
      exact ⟨hf,.canceled hold (.of_insert (congrArg Index.records hi))⟩

/-- A call that reads one record, whatever it makes of it. -/
theorem get_effect {q p : Queue} (ho : q.store.OnlyOutages) (a : Action) (id : JobId)
    (hp : p = { q with store := (q.store.get id).2 }) :
    q.store.Follows p.store ∧ Effect q a [] p := by
  subst hp
  obtain ⟨hf,hi,_⟩ := get_cases ho (rfl : q.store.get id = (_,_))
  exact ⟨hf,.quiet hi⟩

theorem describe_step (q : Queue) (id : JobId) :
    (q.describe id).2 = { q with store := (q.store.get id).2 } := by
  simp only [describe]
  cases q.store.get id with
  | mk x s => cases x <;> rfl

theorem info_step (q : Queue) (id : JobId) :
    (q.info id).2 = { q with store := (q.store.get id).2 } := by
  simp only [info]
  cases q.store.get id with
  | mk x s => cases x <;> rfl

theorem isCanceled_step (q : Queue) (token : DispatchToken) :
    (q.isCanceled token).2 = q ∨
    ∃ id, (q.isCanceled token).2 = { q with store := (q.store.get id).2 } := by
  simp only [isCanceled]
  cases q.tokens.resolve token with
  | error e => exact Or.inl rfl
  | ok id =>
    refine Or.inr ⟨id,?_⟩
    dsimp only
    cases q.store.get id with
    | mk x s => cases x <;> rfl

/-- What is planned to fail aside, a call leaves no faults that were not there. -/
theorem call_effect {q : Queue} (hq : Regular q) (a : Action) (ha : ∀ os fs, a ≠ .plan os fs) :
    q.store.Follows (q.step a).store ∧ Effect q a (q.events a) (q.step a) := by
  cases a with
  | enqueue id now type args ds => exact enqueue_effect hq.outages id now type args ds
  | request r draws f => exact request_effect hq r draws f
  | describe id => exact get_effect hq.outages _ id (describe_step q id)
  | info id => exact get_effect hq.outages _ id (info_step q id)
  | conclude r token status result => exact conclude_effect hq.outages r token status result
  | cancel id => exact cancel_effect hq.outages id
  | isCanceled token =>
    rcases isCanceled_step q token with h | ⟨id,h⟩
    · rw [step,h]
      exact ⟨.refl _,.quiet rfl⟩
    · exact get_effect hq.outages _ id h
  | liveClaim token => exact ⟨.refl _,.quiet rfl⟩
  | plan outages failures => exact absurd rfl (ha outages failures)

theorem step_effect {q : Queue} (hq : Regular q) (a : Action) :
    (q.step a).store.root = q.store.root ∧ (q.step a).store.OnlyOutages ∧
      Effect q a (q.events a) (q.step a) := by
  by_cases ha : ∀ os fs, a ≠ .plan os fs
  · obtain ⟨hf,he⟩ := call_effect hq a ha
    exact ⟨hf.root,hf.outages hq.outages,he⟩
  · push Not at ha
    obtain ⟨outages,failures,rfl⟩ := ha
    refine ⟨rfl,?_,.quiet rfl⟩
    intro f hf
    obtain ⟨o,_,rfl⟩ := List.mem_map.mp hf
    exact ⟨o.message,rfl⟩

theorem Effect.keyed {q p : Queue} (he : Effect q a es p) (h : q.store.Keyed) : p.store.Keyed := by
  cases he with
  | idle keeps => exact h.keeps keeps
  | enqueued _ _ sets => exact h.sets sets rfl
  | claimed _ _ _ _ sets => exact h.sets sets rfl
  | unnamed _ _ _ sets => exact h.sets sets rfl
  | released _ _ sets => exact h.sets sets rfl
  | stranded _ _ sets => exact h.sets sets rfl
  | concluded _ found _ _ sets =>
    have hid := h _ _ found
    exact h.sets sets hid
  | lapsed _ _ _ keeps => exact h.keeps keeps
  | canceled found sets =>
    have hid := h _ _ found
    exact h.sets sets hid

theorem Effect.sound {q p : Queue} (he : Effect q a es p) (h : q.tokens.Sound) :
    p.tokens.Sound := by
  cases he with
  | claimed _ _ _ issued _ => exact (Registry.issue?_cases h issued).2.2.2.2.2.1
  | concluded live => exact (Registry.retire_cases h _ live).2.1
  | lapsed live => exact (Registry.retire_cases h _ live).2.1
  | _ => exact h

theorem step_regular {q : Queue} (hq : Regular q) (a : Action) : Regular (q.step a) := by
  obtain ⟨_,ho,he⟩ := step_effect hq a
  exact ⟨he.keyed hq.keyed,ho,he.sound hq.sound⟩

theorem start_regular (disk : Disk) (root : Option Path) : Regular (start disk root) := by
  refine ⟨?_,?_,Registry.sound_empty _ _⟩
  · intro id j h
    cases h
  · intro f hf
    cases hf

theorem after_regular {q : Queue} (hq : Regular q) (run : List Action) : Regular (q.after run) :=
  run_induction (P := fun _ _ p => Regular p) hq (fun _ _ _ a hp => step_regular hp a) run

/-- What holds at the start and is kept by each effect holds after every run. -/
theorem effect_induction {q : Queue} (hq : Regular q)
    {P : List Action → List Event → Queue → Prop} (start : P [] [] q)
    (next : ∀ past es p a es' p', Regular p → P past es p → Effect p a es' p' →
      P (past ++ [a]) (es ++ es') p')
    (run : List Action) : P run (q.history run) (q.after run) := by
  have h : Regular (q.after run) ∧ P run (q.history run) (q.after run) := by
    apply run_induction (P := fun past es p => Regular p ∧ P past es p) ⟨hq,start⟩
    rintro past es p a ⟨hp,h⟩
    exact ⟨step_regular hp a,next past es p a _ _ hp h (step_effect hp a).2.2⟩
  exact h.2

end Queue

end BuildFarm
