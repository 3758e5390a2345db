import BuildFarm.Proofs.Job.Changes
import BuildFarm.Proofs.Table
import BuildFarm.Store

namespace BuildFarm

namespace Index

def find? (ix : Index) (id : JobId) : Option Job :=
  Table.find? ix.records id

theorem find?_load (ix : Index) (j : Job) (id : JobId) :
    (ix.load j).find? id = if j.id = id then some j else ix.find? id :=
  Table.find?_insert _ _ _ _

theorem find?_replace (ix : Index) (i id : JobId) (old new : Job) :
    (ix.replace i old new).find? id = if i = id then some new else ix.find? id :=
  Table.find?_insert _ _ _ _

theorem find?_replace_own (ix : Index) {id : JobId} (old : Job) {new : Job} (h : new.id = id)
    (i : JobId) :
    (ix.replace id old new).find? i = if new.id = i then some new else ix.find? i := by
  rw [h,find?_replace]

/-- A claimed record is one that no longer waits. -/
theorem replace_taken (ix : Index) (id : JobId) {old : Job} (h : old.status = .pending)
    (now : Instant) : ix.replace id old (old.taken now) =
      ⟨Table.insert ix.records id (old.taken now),Sorted.erase id ix.pending⟩ := by
  simp [Index.replace,Job.taken,h]

end Index

namespace Store

theorem find?_congr {s t : Store} (h : t.index = s.index) (id : JobId) :
    t.find? id = s.find? id := by
  simp only [find?,h]

/-- The same records. -/
def Keeps (s t : Store) : Prop :=
  ∀ i, t.find? i = s.find? i

/-- One record is put in, or in the place of the one that was there. -/
def Sets (s t : Store) (id : JobId) (j : Job) : Prop :=
  ∀ i, t.find? i = if id = i then some j else s.find? i

theorem Keeps.of_index {s t : Store} (h : t.index = s.index) : Keeps s t :=
  find?_congr h

theorem Sets.self {s t : Store} {id : JobId} (h : Sets s t id j) : t.find? id = some j := by
  simp [h id]

theorem Sets.other {s t : Store} {id i : JobId} (h : Sets s t id j) (hn : id ≠ i) :
    t.find? i = s.find? i := by
  simp [h i,hn]

theorem Sets.of_insert {s t : Store} {id : JobId}
    (h : t.index.records = Table.insert s.index.records id j) : Sets s t id j := by
  intro i
  rw [find?,h,Table.find?_insert]
  rfl

theorem Sets.trans {s t u : Store} {id : JobId} (h : Sets s t id j) (hu : Sets t u id k) :
    Sets s u id k := by
  intro i
  rw [hu i]
  split
  · rfl
  · rename_i hn
    exact h.other hn

theorem Sets.keeps {s t : Store} {id : JobId} (h : Sets s t id j) (hj : s.find? id = some j) :
    Keeps s t := by
  intro i
  rw [h i]
  split
  · rename_i hi
    rw [← hi,hj]
  · rfl

/-- Every record is kept under its own id. -/
def Keyed (s : Store) : Prop :=
  ∀ id j, s.find? id = some j → j.id = id

theorem Keyed.keeps {s t : Store} (h : Keyed s) (hk : Keeps s t) : Keyed t :=
  fun i j hj => h i j (hk i ▸ hj)

theorem Keyed.sets {s t : Store} {id : JobId} (h : Keyed s) (hs : Sets s t id j) (hj : j.id = id) :
    Keyed t := by
  intro i k hk
  rw [hs i] at hk
  split at hk
  · rename_i he
    cases hk
    exact hj.trans he
  · exact h i k hk

theorem strike_error (h : strike call fs = (some e,gs)) : ∃ f ∈ fs, f.error = e := by
  induction fs generalizing gs with
  | nil => simp [strike] at h
  | cons f fs ih =>
    simp only [strike] at h
    split at h
    · split at h
      · cases h
        exact ⟨f,List.mem_cons_self,rfl⟩
      · cases h
    · cases hs : strike call fs with
      | mk r rest =>
        rw [hs] at h
        cases h
        obtain ⟨g,hg,he⟩ := ih hs
        exact ⟨g,List.mem_cons_of_mem _ hg,he⟩

theorem strike_rest (h : strike call fs = (r,gs)) : ∀ g ∈ gs, ∃ f ∈ fs, f.error = g.error := by
  induction fs generalizing r gs with
  | nil => cases h; simp
  | cons f fs ih =>
    intro g hg
    simp only [strike] at h
    split at h
    · split at h
      · cases h
        exact ⟨g,List.mem_cons_of_mem _ hg,rfl⟩
      · cases h
        rcases List.mem_cons.mp hg with rfl | hg
        · exact ⟨f,List.mem_cons_self,rfl⟩
        · exact ⟨g,List.mem_cons_of_mem _ hg,rfl⟩
    · cases hs : strike call fs with
      | mk e rest =>
        rw [hs] at h
        cases h
        rcases List.mem_cons.mp hg with rfl | hg
        · exact ⟨g,List.mem_cons_self,rfl⟩
        · obtain ⟨k,hk,he⟩ := ih hs g hg
          exact ⟨k,List.mem_cons_of_mem _ hk,he⟩

/-- All planned faults are outages: they say nothing about records. -/
def OnlyOutages (s : Store) : Prop :=
  ∀ f ∈ s.faults, ∃ m, f.error = .storage m

/-- What one call leaves as it was, whatever it answers: where the records are kept. -/
structure Alike (s t : Store) : Prop where
  index : t.index = s.index
  root : t.root = s.root
  faults : t.faults = s.faults

theorem writeRecord_alike (s : Store) (root : Path) (j : Job) :
    Alike s (s.writeRecord root j).2 := by
  unfold writeRecord
  dsimp only
  split
  · exact ⟨rfl,rfl,rfl⟩
  · split <;> exact ⟨rfl,rfl,rfl⟩

theorem persist_alike (s : Store) (j : Job) : Alike s (s.persist j).2 := by
  simp only [persist]
  split
  · exact ⟨rfl,rfl,rfl⟩
  · split
    · exact writeRecord_alike s _ j
    · have h := writeRecord_alike { s with failures := ‹_› } ‹_› j
      exact ⟨h.index,h.root,h.faults⟩
    · exact ⟨rfl,rfl,rfl⟩

theorem writeRecord_error {s : Store} {root : Path} (h : (s.writeRecord root j).1 = .error e) :
    ∃ m, e = .storage m := by
  unfold writeRecord at h
  dsimp only at h
  split at h
  · cases h
    exact ⟨_,rfl⟩
  · split at h
    · cases h
      exact ⟨_,rfl⟩
    · cases h

theorem persist_error {s : Store} (h : (s.persist j).1 = .error e) : ∃ m, e = .storage m := by
  simp only [persist] at h
  split at h
  · cases h
  · split at h
    · exact writeRecord_error h
    · exact writeRecord_error h
    · cases h
      exact ⟨_,rfl⟩

theorem persist_index {s t : Store} (h : s.persist j = (r,t)) : t.index = s.index := by
  have hi := (persist_alike s j).index
  rwa [h] at hi

/-- What every call keeps: where the records are written, and what faults there are at most. -/
structure Follows (s t : Store) : Prop where
  root : t.root = s.root
  faults : ∀ g ∈ t.faults, ∃ f ∈ s.faults, f.error = g.error

theorem Follows.refl (s : Store) : Follows s s :=
  ⟨rfl,fun g hg => ⟨g,hg,rfl⟩⟩

theorem Follows.trans {s t u : Store} (h : Follows s t) (k : Follows t u) : Follows s u := by
  refine ⟨k.root.trans h.root,?_⟩
  intro g hg
  obtain ⟨f,hf,he⟩ := k.faults g hg
  obtain ⟨e,hm,hfe⟩ := h.faults f hf
  exact ⟨e,hm,hfe.trans he⟩

theorem Follows.outages {s t : Store} (h : Follows s t) (ho : s.OnlyOutages) : t.OnlyOutages := by
  intro g hg
  obtain ⟨f,hf,he⟩ := h.faults g hg
  exact he ▸ ho f hf

theorem Alike.follows {s t : Store} (h : Alike s t) : Follows s t :=
  ⟨h.root,fun g hg => ⟨g,h.faults ▸ hg,rfl⟩⟩

/-- A call fails as planned, or runs on a store that differs in what is planned alone. -/
theorem guarded_cases {s t : Store} {run : Store → Except StoreError α × Store}
    (h : s.guarded call run = (r,t)) :
    (∃ fs e, r = .error e ∧ t = { s with faults := fs } ∧ Follows s t ∧
      ∃ f ∈ s.faults, f.error = e) ∨
    ∃ fs, run { s with faults := fs } = (r,t) ∧ Follows s { s with faults := fs } := by
  simp only [guarded] at h
  cases hs : strike call s.faults with
  | mk e fs =>
    have hf : Follows s { s with faults := fs } := ⟨rfl,strike_rest hs⟩
    cases e with
    | some e =>
      simp only [hs] at h
      cases h
      exact Or.inl ⟨fs,e,rfl,rfl,hf,strike_error hs⟩
    | none =>
      simp only [hs] at h
      exact Or.inr ⟨fs,h,hf⟩

/-- Where no fault is planned the call simply runs. -/
theorem guarded_faultless {s : Store} {run : Store → Except StoreError α × Store}
    (h : s.faults = []) : s.guarded call run = run s := by
  cases s
  subst h
  rfl

theorem Follows.faultless {s t : Store} (h : Follows s t) (hf : s.faults = []) : t.faults = [] := by
  apply List.eq_nil_iff_forall_not_mem.mpr
  intro g hg
  obtain ⟨f,hm,_⟩ := h.faults g hg
  rw [hf] at hm
  cases hm

theorem outages_of_faultless {s : Store} (h : s.faults = []) : s.OnlyOutages := by
  intro f hm
  rw [h] at hm
  cases hm

/-- A record is written and then entered in the index; if it cannot be written, nothing is. -/
def entered (s : Store) (j : Job) (a : α) (next : Index → Index) : Except StoreError α × Store :=
  match s.persist j with
  | (.error e,s) => (.error e,s)
  | (.ok _,s) => (.ok a,{ s with index := next s.index })

theorem entered_cases (s : Store) (j : Job) (a : α) (next : Index → Index) :
    (∃ e t, s.persist j = (.error e,t) ∧ s.entered j a next = (.error e,t)) ∨
    ∃ t, s.persist j = (.ok (),t) ∧
      s.entered j a next = (.ok a,{ t with index := next s.index }) := by
  unfold entered
  cases hp : s.persist j with
  | mk r t =>
    cases r with
    | error e => exact Or.inl ⟨e,t,rfl,rfl⟩
    | ok _ => exact Or.inr ⟨t,rfl,by rw [← persist_index hp]⟩

theorem entered_ok {s : Store} (h : (s.persist j).1 = .ok ()) (a : α) (next : Index → Index) :
    ∃ t : Store, s.entered j a next = (.ok a,{ t with index := next s.index }) := by
  obtain ⟨_,_,hp,_⟩ | ⟨t,_,ht⟩ := entered_cases s j a next
  · cases (congrArg Prod.fst hp).symm.trans h
  · exact ⟨t,ht⟩

theorem entered_effect {s t : Store} {next : Index → Index} (h : s.entered j a next = (r,t)) :
    Follows s t ∧
    ((∃ m, r = .error (.storage m) ∧ t.index = s.index) ∨ (r = .ok a ∧ t.index = next s.index)) := by
  have hp := persist_alike s j
  obtain ⟨e,u,he,hu⟩ | ⟨u,he,hu⟩ := entered_cases s j a next <;>
    rw [he] at hp <;> cases hu.symm.trans h
  · obtain ⟨m,rfl⟩ := persist_error (congrArg Prod.fst he)
    exact ⟨hp.follows,Or.inl ⟨m,rfl,hp.index⟩⟩
  · exact ⟨⟨hp.root,hp.follows.faults⟩,Or.inr ⟨rfl,rfl⟩⟩

theorem createRecord_eq (j : Job) (s : Store) : createRecord j s =
    if (s.find? j.id).isSome then (.error (.alreadyExists j.id),s)
    else s.entered j () (·.load j) := rfl

theorem createRecord_fresh {s : Store} (h : s.find? j.id = none) :
    createRecord j s = s.entered j () (·.load j) := by
  simp [createRecord_eq,h]

theorem updateRecord_eq (id : JobId) (changes : List Job.Change) (s : Store) :
    updateRecord id changes s =
      match s.find? id with
      | none => (.error (.notFound id),s)
      | some old =>
        match old.changeAll changes with
        | .error e => (.error e,s)
        | .ok new => s.entered new new (·.replace id old new) := rfl

theorem create_cases {s t : Store} (ho : s.OnlyOutages) (h : s.create j = (r,t)) :
    Follows s t ∧
    ((∃ e, r = .error e ∧ t.index = s.index ∧ (e = .alreadyExists j.id ∨ ∃ m, e = .storage m)) ∨
      (r = .ok () ∧ s.find? j.id = none ∧ t.index = s.index.load j)) := by
  rcases guarded_cases h with ⟨fs,e,rfl,rfl,hf,f,hm,he⟩ | ⟨fs,h,hf⟩
  · exact ⟨hf,Or.inl ⟨e,rfl,rfl,Or.inr (he ▸ ho f hm)⟩⟩
  · rw [createRecord_eq] at h
    split at h
    · cases h
      exact ⟨hf,Or.inl ⟨_,rfl,rfl,Or.inl rfl⟩⟩
    · rename_i hn
      obtain ⟨hp,⟨m,rfl,hi⟩ | ⟨rfl,hi⟩⟩ := entered_effect h
      · exact ⟨hf.trans hp,Or.inl ⟨_,rfl,hi,Or.inr ⟨m,rfl⟩⟩⟩
      · exact ⟨hf.trans hp,Or.inr ⟨rfl,by simpa [find?] using hn,hi⟩⟩

theorem get_cases {s t : Store} {id : JobId} (ho : s.OnlyOutages) (h : s.get id = (r,t)) :
    Follows s t ∧ t.index = s.index ∧
    ((∃ m, r = .error (.storage m)) ∨ (r = .error (.notFound id) ∧ s.find? id = none) ∨
      ∃ j, r = .ok j ∧ s.find? id = some j) := by
  rcases guarded_cases h with ⟨fs,e,rfl,rfl,hf,f,hm,he⟩ | ⟨fs,h,hf⟩
  · obtain ⟨m,rfl⟩ := he ▸ ho f hm
    exact ⟨hf,rfl,Or.inl ⟨m,rfl⟩⟩
  · simp only [getRecord] at h
    split at h
    · rename_i j hj
      cases h
      exact ⟨hf,rfl,Or.inr (Or.inr ⟨j,rfl,hj⟩)⟩
    · rename_i hj
      cases h
      exact ⟨hf,rfl,Or.inr (Or.inl ⟨rfl,hj⟩)⟩

theorem get_found {s : Store} {id : JobId} (hf : s.faults = []) (h : s.find? id = some j) :
    (s.get id).1 = .ok j := by
  have hj : ({ s with faults := [] } : Store).find? id = some j := h
  simp [Store.get,guarded,hf,strike,getRecord,hj]

/-- A record that is there is read, unless the store is out. -/
theorem get_unless_out {s : Store} {id : JobId} (ho : s.OnlyOutages) (h : s.find? id = some j) :
    (s.get id).1 = .ok j ∨ s.faults ≠ [] ∧ ∃ m, (s.get id).1 = .error (.storage m) := by
  rcases (get_cases ho rfl).2.2 with ⟨m,hm⟩ | ⟨_,hn⟩ | ⟨k,hk,hf⟩
  · refine Or.inr ⟨?_,m,hm⟩
    intro hf
    cases (get_found hf h).symm.trans hm
  · cases h.symm.trans hn
  · cases h.symm.trans hf
    exact Or.inl hk

theorem update_cases {s t : Store} {id : JobId} (ho : s.OnlyOutages) (h : s.update id cs = (r,t)) :
    Follows s t ∧
    ((∃ m, r = .error (.storage m) ∧ t.index = s.index) ∨
      (r = .error (.notFound id) ∧ s.find? id = none ∧ t.index = s.index) ∨
      (∃ old e, s.find? id = some old ∧ old.changeAll cs = .error e ∧ r = .error e ∧
        t.index = s.index) ∨
      ∃ old new, s.find? id = some old ∧ old.changeAll cs = .ok new ∧ r = .ok new ∧
        t.index = s.index.replace id old new) := by
  rcases guarded_cases h with ⟨fs,e,rfl,rfl,hf,f,hm,he⟩ | ⟨fs,h,hf⟩
  · obtain ⟨m,rfl⟩ := he ▸ ho f hm
    exact ⟨hf,Or.inl ⟨m,rfl,rfl⟩⟩
  · rw [updateRecord_eq] at h
    split at h
    · rename_i hn
      cases h
      exact ⟨hf,Or.inr (Or.inl ⟨rfl,hn,rfl⟩)⟩
    · rename_i old hold
      split at h
      · rename_i e hc
        cases h
        exact ⟨hf,Or.inr (Or.inr (Or.inl ⟨old,e,hold,hc,rfl,rfl⟩))⟩
      · rename_i new hc
        obtain ⟨hp,⟨m,rfl,hi⟩ | ⟨rfl,hi⟩⟩ := entered_effect h
        · exact ⟨hf.trans hp,Or.inl ⟨m,rfl,hi⟩⟩
        · exact ⟨hf.trans hp,Or.inr (Or.inr (Or.inr ⟨old,_,hold,hc,rfl,hi⟩))⟩

theorem candidate?_some {s : Store} {id : JobId} (h : s.candidate? f = some (id,old)) :
    s.find? id = some old ∧ f.accepts old = true ∧ s.dependenciesFinished old = true := by
  obtain ⟨i,_,hi⟩ := List.exists_of_findSome?_eq_some h
  split at hi
  · rename_i j hj
    split at hi
    · rename_i hc
      cases hi
      simp only [Bool.and_eq_true] at hc
      exact ⟨hj,hc⟩
    · cases hi
  · cases hi

theorem accepts_iff {f : ClaimFilter} {j : Job} : f.accepts j = true ↔
    j.status = .pending ∧ j.type.arch = f.arch ∧ j.type.kind ∈ f.kinds := by
  simp [ClaimFilter.accepts,and_assoc]

theorem accepts_pending {f : ClaimFilter} (h : f.accepts j = true) : j.status = .pending :=
  (accepts_iff.mp h).1

theorem dependenciesFinished_iff {s : Store} {j : Job} : s.dependenciesFinished j = true ↔
    ∀ d ∈ j.dependencies, ∃ r, s.find? d = some r ∧ r.status = .finished := by
  unfold dependenciesFinished
  rw [List.all_eq_true]
  refine forall₂_congr ?_
  intro d _
  cases s.find? d with
  | none => simp
  | some r => simp

/-- What is chosen waits, so that it can be taken. -/
theorem claim_eq (f : ClaimFilter) (now : Instant) (s : Store) : claim f now s =
    match s.candidate? f with
    | none => (.ok none,s)
    | some (id,old) =>
      s.entered (old.taken now) (some (old.taken now)) (·.replace id old (old.taken now)) := by
  unfold claim
  cases hc : s.candidate? f with
  | none => rfl
  | some p =>
    have hw := accepts_pending (candidate?_some hc).2.1
    simp only [Job.markRunning_ok hw,Index.replace_taken _ _ hw]
    rfl

theorem next_cases {s t : Store} (ho : s.OnlyOutages) (h : s.next f now = (r,t)) :
    Follows s t ∧
    ((∃ m, r = .error (.storage m) ∧ t.index = s.index) ∨
      (r = .ok none ∧ t.index = s.index) ∨
      ∃ id old, s.find? id = some old ∧ f.accepts old = true ∧
        s.dependenciesFinished old = true ∧
        r = .ok (some (old.taken now)) ∧
        t.index = ⟨Table.insert s.index.records id (old.taken now),
          Sorted.erase id s.index.pending⟩) := by
  rcases guarded_cases h with ⟨fs,e,rfl,rfl,hf,g,hm,he⟩ | ⟨fs,h,hf⟩
  · obtain ⟨m,rfl⟩ := he ▸ ho g hm
    exact ⟨hf,Or.inl ⟨m,rfl,rfl⟩⟩
  · rw [claim_eq] at h
    split at h
    · cases h
      exact ⟨hf,Or.inr (Or.inl ⟨rfl,rfl⟩)⟩
    · rename_i id old hc
      obtain ⟨hold,ha,hd⟩ := candidate?_some hc
      obtain ⟨hp,⟨m,rfl,hi⟩ | ⟨rfl,hi⟩⟩ := entered_effect h
      · exact ⟨hf.trans hp,Or.inl ⟨m,rfl,hi⟩⟩
      · rw [Index.replace_taken _ _ (accepts_pending ha)] at hi
        exact ⟨hf.trans hp,Or.inr (Or.inr ⟨id,old,hold,ha,hd,rfl,hi⟩)⟩

end Store

end BuildFarm
