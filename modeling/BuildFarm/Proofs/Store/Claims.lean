import BuildFarm.Proofs.Store.Pending

namespace BuildFarm

namespace Store

/-- A store that has no records yet. -/
def bare (disk : Disk) (root : Option Path) : Store :=
  ⟨disk,root,.empty,[],[]⟩

/-- What a filter can claim: a job that waits, that the filter asks for, and whose dependencies are
all there and have ended well. -/
structure Eligible (s : Store) (f : ClaimFilter) (j : Job) : Prop where
  known : s.find? j.id = some j
  waits : j.status = .pending
  kind : j.type.kind ∈ f.kinds
  arch : j.type.arch = f.arch
  fed : ∀ d ∈ j.dependencies, ∃ r, s.find? d = some r ∧ r.status = .finished

/-- The records of the jobs that the filter can claim can be written. -/
def Writable (s : Store) (f : ClaimFilter) : Prop :=
  ∀ j now, s.Eligible f j → (s.persist (j.taken now)).1 = .ok ()

/-- There is nothing to claim and nothing happens, or of all that can be claimed the job of the
least id is taken and no other record is touched. -/
inductive Selects (s : Store) (f : ClaimFilter) (now : Instant) :
    Except StoreError (Option Job) × Store → Prop
  | none (h : ∀ j, ¬s.Eligible f j) : Selects s f now (.ok none,s)
  | some (eligible : s.Eligible f old) (least : ∀ j, s.Eligible f j → j = old ∨ old.id < j.id)
      (sets : s.Sets t old.id (old.taken now)) : Selects s f now (.ok (some (old.taken now)),t)

/-- One claim after another, with nothing in between. -/
def claims (s : Store) (f : ClaimFilter) : List Instant → List (Except StoreError (Option Job)) × Store
  | [] => ([],s)
  | now :: nows =>
    let (r,t) := s.next f now
    let (rs,u) := t.claims f nows
    (r :: rs,u)

section Candidates

variable {s t : Store} {f : ClaimFilter} {j old : Job}

theorem eligible_iff : s.Eligible f j ↔
    s.find? j.id = some j ∧ f.accepts j = true ∧ s.dependenciesFinished j = true := by
  rw [accepts_iff,dependenciesFinished_iff]
  constructor
  · intro h
    exact ⟨h.known,⟨h.waits,h.arch,h.kind⟩,h.fed⟩
  · rintro ⟨hk,⟨hs,ha,hm⟩,hd⟩
    exact ⟨hk,hs,hm,ha,hd⟩

/-- The job under one of the ids that wait, if it can be claimed. -/
def candidateAt (s : Store) (f : ClaimFilter) (id : JobId) : Option (JobId × Job) :=
  match s.find? id with
  | some j => if f.accepts j && s.dependenciesFinished j then some (id,j) else none
  | none => none

theorem candidate?_eq (s : Store) (f : ClaimFilter) :
    s.candidate? f = s.index.pending.findSome? (s.candidateAt f) := rfl

theorem candidateAt_some (h : s.index.Exact) {id i : JobId} :
    s.candidateAt f id = some (i,j) ↔ i = id ∧ j.id = id ∧ s.Eligible f j := by
  unfold candidateAt
  rw [eligible_iff]
  cases hf : s.find? id with
  | none =>
    suffices hn : j.id = id → s.find? j.id ≠ some j by simpa using fun _ hid hk => absurd hk (hn hid)
    rintro rfl
    simp [hf]
  | some k =>
    have hk : k.id = id := h.keyed id k hf
    simp only [Option.ite_none_right_eq_some,Option.some.injEq,Prod.mk.injEq,Bool.and_eq_true]
    constructor
    · rintro ⟨hc,rfl,rfl⟩
      exact ⟨rfl,hk,hk.symm ▸ hf,hc⟩
    · rintro ⟨rfl,rfl,hj,hc⟩
      rw [hf] at hj
      cases hj
      exact ⟨hc,rfl,rfl⟩

theorem Eligible.pending (h : s.Eligible f j) (he : s.index.Exact) : j.id ∈ s.index.pending :=
  (he.waiting j.id).mpr ⟨j,h.known,h.waits⟩

theorem Eligible.candidateAt (h : s.Eligible f j) (he : s.index.Exact) :
    s.candidateAt f j.id = some (j.id,j) :=
  (candidateAt_some he).mpr ⟨rfl,rfl,h⟩

theorem candidate?_none (he : s.index.Exact) :
    s.candidate? f = none ↔ ∀ j, ¬s.Eligible f j := by
  rw [candidate?_eq,List.findSome?_eq_none_iff]
  constructor
  · intro h j hj
    have hn := h j.id (hj.pending he)
    rw [hj.candidateAt he] at hn
    cases hn
  · intro h id _
    cases hc : s.candidateAt f id with
    | none => rfl
    | some p => exact absurd ((candidateAt_some he).mp hc).2.2 (h p.2)

/-- Those before it in the list of ids cannot be claimed, and those behind it have greater ids. -/
theorem candidate?_least {id : JobId} (he : s.index.Exact)
    (h : s.candidate? f = some (id,old)) :
    s.Eligible f old ∧ old.id = id ∧ ∀ j, s.Eligible f j → j = old ∨ old.id < j.id := by
  rw [candidate?_eq] at h
  obtain ⟨before,i,behind,hp,hi,hnone⟩ := List.findSome?_eq_some_iff.mp h
  obtain ⟨rfl,hid,hold⟩ := (candidateAt_some he).mp hi
  refine ⟨hold,hid,?_⟩
  intro j hj
  have hm := hj.pending he
  have hsorted := he.ordered
  rw [hp] at hm hsorted
  rcases List.mem_append.mp hm with hm | hm
  · have hn := hnone j.id hm
    rw [hj.candidateAt he] at hn
    cases hn
  · rcases List.mem_cons.mp hm with hm | hm
    · have hsame := hj.known
      rw [hm,← hid,hold.known] at hsame
      exact Or.inl (Option.some.inj hsame).symm
    · have hlt := List.rel_of_pairwise_cons (List.pairwise_append.mp hsorted).2.1 hm
      exact Or.inr (hid.symm ▸ hlt)

/-- A job that was claimed is no longer to be had; for the others nothing has changed. -/
theorem eligible_after (known : s.find? old.id = some old) (waits : old.status = .pending)
    (hs : s.Sets t old.id (old.taken now)) :
    t.Eligible f j ↔ s.Eligible f j ∧ j.id ≠ old.id := by
  have hother {d : JobId} (hd : d ≠ old.id) : t.find? d = s.find? d := hs.other (Ne.symm hd)
  have hfed (d : JobId) : (∃ r, t.find? d = some r ∧ r.status = .finished) ↔
      ∃ r, s.find? d = some r ∧ r.status = .finished := by
    by_cases hd : d = old.id
    · subst hd
      simp [hs.self,known,waits,Job.taken]
    · rw [hother hd]
  constructor
  · intro h
    have hne : j.id ≠ old.id := by
      intro he
      have hk := h.known
      rw [he,hs.self] at hk
      have hw := h.waits
      rw [← Option.some.inj hk] at hw
      cases hw
    exact ⟨⟨hother hne ▸ h.known,h.waits,h.kind,h.arch,fun d hd => (hfed d).mp (h.fed d hd)⟩,hne⟩
  · rintro ⟨h,hne⟩
    exact ⟨(hother hne).trans h.known,h.waits,h.kind,h.arch,fun d hd => (hfed d).mpr (h.fed d hd)⟩

theorem next_selects (he : s.index.Exact) (hf : s.faults = []) (hw : s.Writable f)
    (now : Instant) : s.Selects f now (s.next f now) := by
  have hrun : s.next f now = s.claim f now := guarded_faultless hf
  rw [hrun,claim_eq]
  cases hc : s.candidate? f with
  | none => exact .none ((candidate?_none he).mp hc)
  | some p =>
    obtain ⟨id,old⟩ := p
    obtain ⟨hold,rfl,hleast⟩ := candidate?_least he hc
    obtain ⟨t,ht⟩ := entered_ok (hw old now hold) (some (old.taken now))
      (·.replace old.id old (old.taken now))
    dsimp only
    rw [ht]
    exact .some hold hleast (Sets.of_insert rfl)

end Candidates

section Runs

variable {s t : Store} {f : ClaimFilter}

theorem bare_exact (disk : Disk) (root : Option Path) : (bare disk root).index.Exact :=
  Index.exact_empty

/-- The job that a step has put in. -/
def createdBy (s : Store) (x : Step) : Option JobId :=
  match x.operation,(s.take x).1 with
  | .create j,.ok _ => some j.id
  | _,_ => none

/-- The jobs that a run has put in, in this order. -/
def created (s : Store) : List Step → List JobId
  | [] => []
  | x :: run => (s.createdBy x).toList ++ (s.take x).2.created run

theorem created_append (s : Store) (xs ys : List Step) :
    s.created (xs ++ ys) = s.created xs ++ (s.after xs).created ys := by
  induction xs generalizing s with
  | nil => rfl
  | cons x xs ih => simp [created,after,ih]

/-- A job that is known after a step was known before, or the step has put it in. -/
theorem known_step (s : Store) (x : Step) {id : JobId} (h : ((s.take x).2.find? id).isSome) :
    (s.find? id).isSome ∨ s.createdBy x = some id := by
  have ho := take_outcome s x
  change ((s.take x).2.index.find? id).isSome at h
  have hreplaced {i : JobId} {old new : Job} (hi : s.find? i = some old)
      (hr : ((s.index.replace i old new).find? id).isSome) : (s.find? id).isSome := by
    rw [Index.find?_replace] at hr
    split at hr
    · rename_i he
      exact he ▸ hi ▸ rfl
    · exact hr
  generalize hr : (s.take x).1 = r at ho
  generalize (s.take x).2.index = ix at h ho
  generalize hop : x.operation = o at ho
  cases ho with
  | created fresh =>
    rw [Index.find?_load] at h
    split at h
    · rename_i he
      exact Or.inr (by simp [createdBy,hop,hr,he])
    · exact Or.inl h
  | updated found changed => exact Or.inl (hreplaced found h)
  | claimed chosen => exact Or.inl (hreplaced (candidate?_some chosen).1 h)
  | _ => exact Or.inl h

theorem known_created (disk : Disk) (root : Option Path) (run : List Step) {id : JobId}
    (h : (((bare disk root).after run).find? id).isSome) : id ∈ (bare disk root).created run := by
  induction run using List.reverseRecOn with
  | nil => cases h
  | append_singleton past x ih =>
    rw [after_append] at h
    rw [created_append,List.mem_append]
    rcases known_step _ x h with h | h
    · exact Or.inl (ih h)
    · exact Or.inr (by simp [created,h])

/-- What can be claimed, in the order of the ids. -/
def queue (s : Store) (f : ClaimFilter) : List Job :=
  s.index.pending.filterMap (fun id => (s.candidateAt f id).map Prod.snd)

theorem mem_queue (he : s.index.Exact) : j ∈ s.queue f ↔ s.Eligible f j := by
  simp only [queue,List.mem_filterMap,Option.map_eq_some_iff,Prod.exists]
  constructor
  · rintro ⟨id,_,i,k,hk,rfl⟩
    exact ((candidateAt_some he).mp hk).2.2
  · intro h
    exact ⟨j.id,h.pending he,j.id,j,h.candidateAt he,rfl⟩

theorem queue_ordered (he : s.index.Exact) : (s.queue f).Pairwise (fun j k => j.id < k.id) := by
  refine List.Pairwise.filterMap _ ?_ he.ordered
  intro a b hab j hj k hk
  simp only [Option.map_eq_some_iff,Prod.exists,exists_eq_right] at hj hk
  obtain ⟨i,hi⟩ := hj
  obtain ⟨l,hl⟩ := hk
  rw [((candidateAt_some he).mp hi).2.1,((candidateAt_some he).mp hl).2.1]
  exact hab

/-- What was first is gone, and the others stay in order. -/
theorem queue_after {old : Job} {now : Instant} (he : s.index.Exact) (ht : t.index.Exact)
    (eligible : s.Eligible f old) (least : ∀ j, s.Eligible f j → j = old ∨ old.id < j.id)
    (sets : s.Sets t old.id (old.taken now)) : s.queue f = old :: t.queue f := by
  have hrest : ∀ j, j ∈ t.queue f ↔ s.Eligible f j ∧ j.id ≠ old.id := by
    intro j
    rw [mem_queue ht,eligible_after eligible.known eligible.waits sets]
  have hordered : (old :: t.queue f).Pairwise (fun j k => j.id < k.id) := by
    refine List.pairwise_cons.mpr ⟨?_,queue_ordered ht⟩
    intro j hj
    obtain ⟨hj,hne⟩ := (hrest j).mp hj
    rcases least j hj with rfl | hlt
    · exact absurd rfl hne
    · exact hlt
  have hmem : ∀ j, j ∈ s.queue f ↔ j ∈ old :: t.queue f := by
    intro j
    rw [mem_queue he,List.mem_cons,hrest]
    constructor
    · intro hj
      by_cases hid : j.id = old.id
      · have hk := hj.known
        rw [hid,eligible.known] at hk
        exact Or.inl (Option.some.inj hk).symm
      · exact Or.inr ⟨hj,hid⟩
    · rintro (rfl | ⟨hj,_⟩)
      · exact eligible
      · exact hj
  exact (queue_ordered he).eq_of_mem_iff hordered hmem

/-- The claims of a filter, one after another, empty its queue from the front. -/
theorem claims_queue (he : s.index.Exact) (hf : s.faults = []) (nows : List Instant)
    (hw : ∀ past, past <+: nows → (s.claims f past).2.Writable f) :
    (s.claims f nows).1 =
      List.zipWith (fun j now => .ok (some (j.taken now))) (s.queue f) nows ++
        List.replicate (nows.length - (s.queue f).length) (.ok none) := by
  induction nows generalizing s with
  | nil => simp [claims]
  | cons now nows ih =>
    have hsel := next_selects he hf (hw [] (List.nil_prefix)) now
    have ht : (s.next f now).2.index.Exact := (next_outcome s f now).exact he
    have hft : (s.next f now).2.faults = [] :=
      (next_cases (outages_of_faultless hf) rfl).1.faultless hf
    have hrest := ih ht hft (by
      intro past hp
      have := hw (now :: past) ((List.prefix_cons_inj now).mpr hp)
      exact this)
    simp only [claims]
    rw [hrest]
    generalize s.next f now = p at hsel ht
    cases hsel with
    | none h =>
      have hq : s.queue f = [] := by
        apply List.eq_nil_iff_forall_not_mem.mpr
        intro j hj
        exact h j ((mem_queue he).mp hj)
      simp [hq,List.replicate_succ]
    | some eligible least sets =>
      rw [queue_after he ht eligible least sets]
      simp

/-- From the jobs of a store that has only ever been asked to create, read, change and hand out
records, with whatever faults of its writes before, a claim takes the eligible one of the least
id; and claims in a row hand out the eligible jobs in the order of their ids, then nothing. This
is the order in which they were put in, if ids have only grown. -/
theorem claims_oldest_first (disk : Disk) (root : Option Path) (run : List Step) (f : ClaimFilter)
    {s : Store} (hs : (bare disk root).after run = s) :
    (∀ now, s.Writable f → s.Selects f now (s.next f now)) ∧
    ∀ nows, (∀ past, past <+: nows → (s.claims f past).2.Writable f) →
      ∃ js, js.Pairwise (fun j k => j.id < k.id) ∧ (∀ j, j ∈ js ↔ s.Eligible f j) ∧
        (s.claims f nows).1 = List.zipWith (fun j now => .ok (some (j.taken now))) js nows ++
          List.replicate (nows.length - js.length) (.ok none) ∧
        (((bare disk root).created run).Pairwise (· < ·) →
          (js.map Job.id).Sublist ((bare disk root).created run)) := by
  subst hs
  have he := exact_lasting.after (bare_exact disk root) run
  have hf := (after_follows (s := bare disk root) rfl run).faultless rfl
  refine ⟨fun now hw => next_selects he hf hw now,?_⟩
  intro nows hw
  refine ⟨_,queue_ordered he,fun j => mem_queue he,claims_queue he hf nows hw,?_⟩
  intro hc
  have hordered : (((bare disk root).after run).queue f |>.map Job.id).Pairwise (· < ·) :=
    List.pairwise_map.mpr (queue_ordered he)
  refine List.sublist_of_subperm_of_pairwise (List.subperm_of_subset hordered.nodup ?_) hordered hc
  intro id hid
  obtain ⟨j,hj,rfl⟩ := List.mem_map.mp hid
  exact known_created disk root run (by simp [((mem_queue he).mp hj).known])

end Runs

namespace Sample

def job (n : Nat) (kind : String) (dependencies : List JobId) : Job :=
  .make ⟨.ofNat n⟩ ⟨kind,"x86"⟩ .null dependencies .epoch

def builds : ClaimFilter := ⟨["build"],"x86"⟩

/-- Two of the jobs can be claimed: of the others, one is of a kind that is not asked for and one
depends on a job that has not ended. -/
def waiting : List Step :=
  [⟨.create (job 1 "test" []),none⟩,⟨.create (job 2 "build" []),none⟩,
   ⟨.create (job 3 "build" [⟨.ofNat 2⟩]),none⟩,⟨.create (job 4 "build" []),none⟩]

end Sample

theorem writable_in_memory {s : Store} (h : s.root = none) (f : ClaimFilter) : s.Writable f := by
  intro j now _
  simp [persist,h]

theorem claims_root {s : Store} (hf : s.faults = []) (f : ClaimFilter) (nows : List Instant) :
    (s.claims f nows).2.root = s.root := by
  induction nows generalizing s with
  | nil => rfl
  | cons now nows ih =>
    have h : Follows s (s.next f now).2 := (next_cases (outages_of_faultless hf) rfl).1
    exact (ih (h.faultless hf)).trans h.root

theorem claims_oldest_first_waiting : ∃ j k : Job, j.id = ⟨.ofNat 2⟩ ∧ k.id = ⟨.ofNat 4⟩ ∧
    (((bare .empty none).after Sample.waiting).claims Sample.builds [.epoch,.epoch,.epoch]).1 =
      [.ok (some (j.taken .epoch)),.ok (some (k.taken .epoch)),.ok none] := by
  have hs := after_follows (s := bare .empty none) rfl Sample.waiting
  obtain ⟨js,hp,hm,hr,_⟩ := (claims_oldest_first .empty none Sample.waiting Sample.builds rfl).2
    [.epoch,.epoch,.epoch] (fun past _ => writable_in_memory
      ((claims_root (hs.faultless rfl) _ past).trans hs.root) _)
  have he := exact_lasting.after (bare_exact .empty none) Sample.waiting
  have hq : js = ((bare .empty none).after Sample.waiting).queue Sample.builds :=
    hp.eq_of_mem_iff (queue_ordered he) (fun j => (hm j).trans (mem_queue he).symm)
  have hids : js.map Job.id = [⟨.ofNat 2⟩,⟨.ofNat 4⟩] := by
    rw [hq]
    decide +kernel
  obtain ⟨j,_,rfl,hj,hids⟩ := List.map_eq_cons_iff.mp hids
  obtain ⟨k,_,rfl,hk,hids⟩ := List.map_eq_cons_iff.mp hids
  obtain rfl := List.map_eq_nil_iff.mp hids
  exact ⟨j,k,hj,hk,hr⟩

end Store

end BuildFarm
