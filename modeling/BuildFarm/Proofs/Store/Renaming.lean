import BuildFarm.Proofs.Store.Names
import BuildFarm.Proofs.Store.Twins

namespace BuildFarm

namespace Sorted

variable {κ : Type} [DecidableEq κ] {f : κ → κ}

/-- Keys that keep their order are put in at the same place. -/
theorem insert_map [LT κ] [DecidableLT κ] (hi : Function.Injective f) {k : κ} {ks : List κ}
    (ho : ∀ l ∈ ks, (f k < f l ↔ k < l)) : insert (f k) (ks.map f) = (insert k ks).map f := by
  induction ks with
  | nil => rfl
  | cons l ks ih =>
    rw [List.forall_mem_cons] at ho
    simp only [List.map_cons,insert,ho.1,hi.eq_iff,ih ho.2]
    split
    · rfl
    · split <;> rfl

theorem erase_map (hi : Function.Injective f) (k : κ) (ks : List κ) :
    erase (f k) (ks.map f) = (erase k ks).map f := by
  induction ks with
  | nil => rfl
  | cons l ks ih =>
    simp only [List.map_cons,erase,hi.eq_iff,ih]
    split <;> rfl

end Sorted

namespace Job

variable {ρ : JobId → JobId}

/-- The same record of a job with another id. -/
def renamed (ρ : JobId → JobId) (j : Job) : Job :=
  { j with id := ρ j.id }

theorem change_renamed (j : Job) (c : Change) :
    (j.renamed ρ).change c = (j.change c).map (renamed ρ) := by
  have happlied : (j.renamed ρ).applied c = (j.applied c).renamed ρ := by
    cases c <;> rfl
  rw [change_eq,change_eq,happlied,show (j.renamed ρ).status = j.status from rfl]
  cases c.refusal? j.status <;> rfl

theorem changeAll_renamed (j : Job) (cs : List Change) :
    (j.renamed ρ).changeAll cs = (j.changeAll cs).map (renamed ρ) := by
  induction cs generalizing j with
  | nil => rfl
  | cons c cs ih =>
    simp only [changeAll,bind,Except.bind,change_renamed]
    cases j.change c with
    | error e => rfl
    | ok k => exact ih k

end Job

/-- Errors that are the same but for ids that are not found, and but for what faults of the disk
are called. -/
inductive StoreError.Alike (ρ : JobId → JobId) (missing : JobId → Prop) :
    StoreError → StoreError → Prop
  | same (e : StoreError) : Alike ρ missing e e
  | storage (m n : String) : Alike ρ missing (.storage m) (.storage n)
  | notFound {id : JobId} (h : missing id) : Alike ρ missing (.notFound id) (.notFound (ρ id))
  | alreadyExists (id : JobId) : Alike ρ missing (.alreadyExists id) (.alreadyExists (ρ id))

/-- Ids are exchanged, and with them names on the disk. Those of the jobs that are known keep their
order. -/
structure Exchange where
  ids : Equiv.Perm JobId
  disk : Disk.Renaming
  known : JobId → Prop
  ordered : ∀ i j, known i → known j → (ids i < ids j ↔ i < j)

/-- The same records under the other ids, of jobs that depend on none of those that have two. -/
structure Index.Renamed (x : Exchange) (ix iy : Index) : Prop where
  records : ∀ id, iy.find? (x.ids id) = (ix.find? id).map (Job.renamed x.ids)
  pending : iy.pending = ix.pending.map x.ids
  known : ∀ id j, ix.find? id = some j → x.known id
  waiting : ∀ id ∈ ix.pending, x.known id
  keyed : ∀ id j, ix.find? id = some j → j.id = id
  steady : ∀ id j, ix.find? id = some j → ∀ d ∈ j.dependencies, x.ids d = d

namespace Index.Renamed

variable {x : Exchange} {ix iy : Index}

theorem inserted (h : Renamed x ix iy) {id : JobId} {new : Job} {ids : List JobId}
    (hk : x.known id) (hn : new.id = id) (hi : ∀ i ∈ ids, i = id ∨ i ∈ ix.pending)
    (hs : ∀ d ∈ new.dependencies, x.ids d = d) :
    Renamed x ⟨Table.insert ix.records id new,ids⟩
      ⟨Table.insert iy.records (x.ids id) (new.renamed x.ids),ids.map x.ids⟩ where
  records i := by
    unfold Index.find?
    rw [Table.find?_insert,Table.find?_insert]
    by_cases he : id = i
    · rw [if_pos he,if_pos (congrArg x.ids he)]
      rfl
    · rw [if_neg he,if_neg (fun hx => he (x.ids.injective hx))]
      exact h.records i
  pending := rfl
  known i j hj := by
    unfold Index.find? at hj
    rw [Table.find?_insert] at hj
    split at hj
    · rename_i he
      exact he ▸ hk
    · exact h.known i j hj
  waiting i hm := by
    rcases hi i hm with rfl | hp
    · exact hk
    · exact h.waiting i hp
  keyed i j hj := by
    unfold Index.find? at hj
    rw [Table.find?_insert] at hj
    split at hj
    · rename_i he
      cases hj
      exact hn.trans he
    · exact h.keyed i j hj
  steady i j hj := by
    unfold Index.find? at hj
    rw [Table.find?_insert] at hj
    split at hj
    · cases hj
      exact hs
    · exact h.steady i j hj

theorem insert_pending (h : Renamed x ix iy) {id : JobId} (hk : x.known id) :
    Sorted.insert (x.ids id) iy.pending = (Sorted.insert id ix.pending).map x.ids := by
  rw [h.pending]
  exact Sorted.insert_map x.ids.injective (fun l hl => x.ordered _ _ hk (h.waiting l hl))

theorem erase_pending (h : Renamed x ix iy) (id : JobId) :
    Sorted.erase (x.ids id) iy.pending = (Sorted.erase id ix.pending).map x.ids := by
  rw [h.pending]
  exact Sorted.erase_map x.ids.injective id ix.pending

theorem load (h : Renamed x ix iy) {j : Job} (hk : x.known j.id)
    (hs : ∀ d ∈ j.dependencies, x.ids d = d) :
    Renamed x (ix.load j) (iy.load (j.renamed x.ids)) := by
  unfold Index.load
  simp only [show (j.renamed x.ids).id = x.ids j.id from rfl,
    show (j.renamed x.ids).status = j.status from rfl]
  by_cases hp : j.status = .pending
  · rw [if_pos hp,if_pos hp,h.insert_pending hk]
    exact h.inserted hk rfl (fun i => (Sorted.mem_insert _ _ _).mp) hs
  · rw [if_neg hp,if_neg hp,h.pending]
    exact h.inserted hk rfl (fun _ => Or.inr) hs

theorem replace (h : Renamed x ix iy) {id : JobId} {old new : Job} (hk : x.known id)
    (hn : new.id = id) (hs : ∀ d ∈ new.dependencies, x.ids d = d) :
    Renamed x (ix.replace id old new)
      (iy.replace (x.ids id) (old.renamed x.ids) (new.renamed x.ids)) := by
  unfold Index.replace
  simp only [show (old.renamed x.ids).status = old.status from rfl,
    show (new.renamed x.ids).status = new.status from rfl]
  by_cases hp : old.status = .pending ∧ new.status ≠ .pending
  · rw [if_pos hp,if_pos hp,h.erase_pending]
    exact h.inserted hk hn (fun _ hm => Or.inr ((Sorted.erase_sublist _ _).mem hm)) hs
  rw [if_neg hp,if_neg hp]
  by_cases hq : old.status ≠ .pending ∧ new.status = .pending
  · rw [if_pos hq,if_pos hq,h.insert_pending hk]
    exact h.inserted hk hn (fun i => (Sorted.mem_insert _ _ _).mp) hs
  · rw [if_neg hq,if_neg hq,h.pending]
    exact h.inserted hk hn (fun _ => Or.inr) hs

end Index.Renamed

namespace Store

/-- The same store but for the ids, on a disk that is the same but for the names. -/
structure Renamed (x : Exchange) (s t : Store) : Prop where
  root : t.root = s.root
  faults : t.faults = s.faults
  failures : t.failures = s.failures
  disk : s.disk.Renamed x.disk t.disk
  index : s.index.Renamed x t.index
  home : ∀ root, s.root = some root → Houses x.ids x.disk root

/-- Answers that belong together, with what became of the stores. -/
structure Outcomes (x : Exchange) (r : α → β → Prop) (p : α × Store) (q : β × Store) : Prop where
  answer : r p.1 q.1
  store : Renamed x p.2 q.2

namespace Renamed

variable {x : Exchange} {s t : Store} {missing : JobId → Prop}

theorem find? (h : Renamed x s t) (id : JobId) :
    t.find? (x.ids id) = (s.find? id).map (Job.renamed x.ids) :=
  h.index.records id

theorem onDisk (h : Renamed x s t) {d e : Disk} (hd : d.Renamed x.disk e) :
    Renamed x { s with disk := d } { t with disk := e } :=
  { h with disk := hd }

theorem writeRecord (h : Renamed x s t) {root : Path} (hr : s.root = some root) (j : Job) :
    Outcomes x (Both (StoreError.Alike x.ids missing) Eq) (s.writeRecord root j)
      (t.writeRecord root (j.renamed x.ids)) := by
  have hh := h.home root hr
  have ht : x.disk.Leads (tempPath root j.id) (tempPath root (j.renamed x.ids).id) := by
    have hl := hh.leads .temporary j.id
    rwa [Keepsake.name_temporary,Keepsake.name_temporary] at hl
  have hp : x.disk.Leads (recordPath root j.id) (recordPath root (j.renamed x.ids).id) := by
    have hl := hh.leads .record j.id
    rwa [Keepsake.name_record,Keepsake.name_record] at hl
  have hs := h.disk.save ht (recordBytes j) (recordBytes (j.renamed x.ids))
  unfold Store.writeRecord
  dsimp only
  generalize s.disk.save (tempPath root j.id) (recordBytes j) = a at hs ⊢
  generalize t.disk.save (tempPath root (j.renamed x.ids).id) _ = b at hs ⊢
  cases hs with
  | error _ => exact ⟨.error (.storage _ _),h⟩
  | @ok d e hd =>
    have hm := hd.rename ht hp
    dsimp only
    generalize d.rename (tempPath root j.id) (recordPath root j.id) = a at hm ⊢
    generalize e.rename (tempPath root (j.renamed x.ids).id) _ = b at hm ⊢
    cases hm with
    | error _ => exact ⟨.error (.storage _ _),h.onDisk hd⟩
    | ok hd => exact ⟨.ok rfl,h.onDisk hd⟩

theorem failWrite (h : Renamed x s t) {root : Path} (hr : s.root = some root) (j : Job)
    (f : WriteFailure) :
    Outcomes x (Both (StoreError.Alike x.ids missing) Eq) (s.failWrite root j f)
      (t.failWrite root (j.renamed x.ids) f) := by
  have ht : x.disk.Leads (tempPath root j.id) (tempPath root (j.renamed x.ids).id) := by
    have hl := (h.home root hr).leads .temporary j.id
    rwa [Keepsake.name_temporary,Keepsake.name_temporary] at hl
  unfold Store.failWrite
  dsimp only
  cases f.left with
  | none => exact ⟨.error (.storage _ _),h⟩
  | some bs =>
    have hs := h.disk.save ht bs bs
    dsimp only
    generalize s.disk.save (tempPath root j.id) bs = a at hs ⊢
    generalize t.disk.save (tempPath root (j.renamed x.ids).id) bs = b at hs ⊢
    cases hs with
    | error _ => exact ⟨.error (.storage _ _),h⟩
    | ok hd => exact ⟨.error (.storage _ _),h.onDisk hd⟩

theorem plan (h : Renamed x s t) (failures : List (Option WriteFailure)) :
    Renamed x { s with failures := failures } { t with failures := failures } :=
  { h with failures := rfl }

theorem pass (h : Renamed x s t) (faults : List PlannedFault) :
    Renamed x { s with faults := faults } { t with faults := faults } :=
  { h with faults := rfl }

theorem persist (h : Renamed x s t) (j : Job) :
    Outcomes x (Both (StoreError.Alike x.ids missing) Eq) (s.persist j)
      (t.persist (j.renamed x.ids)) := by
  obtain ⟨disk,root,index,faults,failures⟩ := s
  obtain ⟨disk',root',index',faults',failures'⟩ := t
  obtain rfl : root' = root := h.root
  obtain rfl : failures' = failures := h.failures
  unfold Store.persist
  cases root' with
  | none => exact ⟨.ok rfl,h⟩
  | some root =>
    cases failures' with
    | nil => exact h.writeRecord rfl j
    | cons f rest =>
      cases f with
      | none => exact (h.plan rest).writeRecord rfl j
      | some f => exact (h.plan rest).failWrite rfl j f

theorem entered (h : Renamed x s t) {r : α → β → Prop} {a : α} {b : β} (ha : r a b) (j : Job)
    (next next' : Index → Index)
    (hn : ∀ ix iy : Index, ix.Renamed x iy → (next ix).Renamed x (next' iy)) :
    Outcomes x (Both (StoreError.Alike x.ids missing) r) (s.entered j a next)
      (t.entered (j.renamed x.ids) b next') := by
  obtain ⟨hp,h⟩ : Outcomes x (Both (StoreError.Alike x.ids missing) Eq) (s.persist j)
      (t.persist (j.renamed x.ids)) := h.persist j
  unfold Store.entered
  generalize s.persist j = p at hp h ⊢
  generalize t.persist (j.renamed x.ids) = q at hp h ⊢
  obtain ⟨p,s⟩ := p
  obtain ⟨q,t⟩ := q
  cases hp with
  | error he => exact ⟨.error he,h⟩
  | ok _ => exact ⟨.ok ha,{ h with index := hn _ _ h.index }⟩

/-- The same fault strikes both stores, or none. -/
theorem guarded {e : StoreError → StoreError → Prop} {r : α → β → Prop} (he : ∀ f, e f f)
    (h : Renamed x s t) {run : Store → Except StoreError α × Store}
    {run' : Store → Except StoreError β × Store}
    (hr : ∀ fs, Outcomes x (Both e r) (run { s with faults := fs }) (run' { t with faults := fs })) :
    Outcomes x (Both e r) (s.guarded call run) (t.guarded call run') := by
  unfold Store.guarded
  rw [h.faults]
  cases strike call s.faults with
  | mk f fs =>
    cases f with
    | none => exact hr fs
    | some f => exact ⟨.error (he f),h.pass fs⟩

theorem create (h : Renamed x s t) {j : Job} (hk : x.known j.id)
    (hs : ∀ d ∈ j.dependencies, x.ids d = d) :
    Outcomes x (Both (StoreError.Alike x.ids (fun _ => False)) Eq) (s.create j)
      (t.create (j.renamed x.ids)) := by
  refine h.guarded .same ?_
  intro fs
  have h := h.pass fs
  rw [createRecord_eq,createRecord_eq]
  have hf := h.find? j.id
  change Store.find? _ (j.renamed x.ids).id = _ at hf
  rw [hf,Option.isSome_map]
  split
  · exact ⟨.error (.alreadyExists j.id),h⟩
  · exact h.entered rfl j (·.load j) (·.load (j.renamed x.ids)) (fun _ _ hx => hx.load hk hs)

theorem get (h : Renamed x s t) (id : JobId) :
    Outcomes x (Both (StoreError.Alike x.ids (fun i => i = id ∧ s.find? i = none))
      (fun j k => k = j.renamed x.ids)) (s.get id) (t.get (x.ids id)) := by
  refine h.guarded .same ?_
  intro fs
  have h := h.pass fs
  unfold getRecord
  rw [h.find? id,find?_congr (t := { s with faults := fs }) (s := s) rfl]
  cases hf : s.find? id with
  | none => exact ⟨.error (.notFound ⟨rfl,hf⟩),h⟩
  | some j => exact ⟨.ok rfl,h⟩

theorem update (h : Renamed x s t) (id : JobId) (changes : List Job.Change) :
    Outcomes x (Both (StoreError.Alike x.ids (fun i => i = id ∧ s.find? i = none))
      (fun j k => k = j.renamed x.ids)) (s.update id changes) (t.update (x.ids id) changes) := by
  refine h.guarded .same ?_
  intro fs
  have h := h.pass fs
  rw [updateRecord_eq,updateRecord_eq,h.find? id,
    find?_congr (t := { s with faults := fs }) (s := s) rfl]
  cases hf : s.find? id with
  | none => exact ⟨.error (.notFound ⟨rfl,hf⟩),h⟩
  | some old =>
    dsimp only [Option.map_some]
    rw [Job.changeAll_renamed]
    cases hc : old.changeAll changes with
    | error e => exact ⟨.error (.same e),h⟩
    | ok new =>
      have hid := (Job.changeAll_id hc).trans (h.index.keyed id old hf)
      have hk := h.index.known id old hf
      have hs : ∀ d ∈ new.dependencies, x.ids d = d :=
        Job.changeAll_dependencies hc ▸ h.index.steady id old hf
      dsimp only [Except.map]
      exact h.entered (r := fun (j k : Job) => k = j.renamed x.ids) rfl new (·.replace id old new)
        (·.replace (x.ids id) (old.renamed x.ids) (new.renamed x.ids))
        (fun _ _ hx => hx.replace hk hid hs)

theorem dependenciesFinished (h : Renamed x s t) {j : Job} (hs : ∀ d ∈ j.dependencies, x.ids d = d) :
    t.dependenciesFinished (j.renamed x.ids) = s.dependenciesFinished j := by
  unfold Store.dependenciesFinished
  refine Bool.eq_iff_iff.mpr ?_
  rw [List.all_eq_true,List.all_eq_true]
  refine forall₂_congr ?_
  intro d hd
  have hf := h.find? d
  rw [hs d hd] at hf
  rw [hf]
  cases s.find? d <;> rfl

theorem candidate? (h : Renamed x s t) (f : ClaimFilter) :
    t.candidate? f = (s.candidate? f).map (fun p => (x.ids p.1,p.2.renamed x.ids)) := by
  unfold Store.candidate?
  rw [h.index.pending,List.findSome?_map,List.map_findSome?]
  congr 1
  funext id
  simp only [Function.comp_apply,h.find? id]
  cases hf : s.find? id with
  | none => rfl
  | some j =>
    dsimp only [Option.map_some]
    rw [h.dependenciesFinished (h.index.steady id j hf),
      show f.accepts (j.renamed x.ids) = f.accepts j from rfl]
    split <;> rfl

theorem next (h : Renamed x s t) (f : ClaimFilter) (now : Instant) :
    Outcomes x (Both (StoreError.Alike x.ids (fun _ => False))
      (fun a b => b = a.map (Job.renamed x.ids) ∧ ∀ j ∈ a, (s.find? j.id).isSome ∧
        ∀ d ∈ j.dependencies, x.ids d = d)) (s.next f now) (t.next f now) := by
  refine h.guarded .same ?_
  intro fs
  have h := h.pass fs
  rw [claim_eq,claim_eq,h.candidate? f]
  cases hc : ({ s with faults := fs } : Store).candidate? f with
  | none => exact ⟨.ok ⟨rfl,nofun⟩,h⟩
  | some p =>
    obtain ⟨id,old⟩ := p
    obtain ⟨hf,_⟩ := candidate?_some hc
    have hid : (old.taken now).id = id := h.index.keyed id old hf
    have hs := h.index.steady id old hf
    refine h.entered ?_ (old.taken now) (·.replace id old (old.taken now))
      (·.replace (x.ids id) (old.renamed x.ids) ((old.taken now).renamed x.ids))
      (fun _ _ hx => hx.replace (h.index.known id old hf) hid hs)
    refine ⟨rfl,?_⟩
    rintro _ ⟨⟩
    exact ⟨Option.isSome_iff_exists.mpr ⟨old,hid ▸ hf⟩,hs⟩

end Renamed

theorem isSome_insert {ix : Index} {id : JobId} (h : (ix.find? id).isSome) (i : JobId) (j : Job)
    (ids : List JobId) : (Index.find? ⟨Table.insert ix.records i j,ids⟩ id).isSome := by
  unfold Index.find?
  rw [Table.find?_insert]
  split
  · rfl
  · exact h

/-- Records are changed but never lost. -/
theorem found_lasting (id : JobId) : Lasting (fun s => (s.find? id).isSome) := by
  refine .of_kept (.of_persist (fun _ _ h => h) ?_ ?_) (fun _ _ _ h => h)
  · intro s j h
    exact find?_congr (persist_alike s j).index id ▸ h
  · intro s i j ids h
    exact isSome_insert h i j ids

end Store

end BuildFarm
