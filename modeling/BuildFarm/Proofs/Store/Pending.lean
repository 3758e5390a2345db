import BuildFarm.Proofs.Store.Run
import BuildFarm.Proofs.Uuid
import Mathlib.Data.List.Sort

namespace BuildFarm

namespace JobId

theorem eq_of_uuid {i j : JobId} (h : i.uuid = j.uuid) : i = j := by
  cases i
  cases j
  exact congrArg JobId.mk h

instance : IsStrictTotalOrder JobId (· < ·) where
  irrefl i h := irrefl_of (· < ·) i.uuid h
  trans i j k h l := trans_of (· < ·) (a := i.uuid) (b := j.uuid) (c := k.uuid) h l
  trichotomous i j h k := by
    have ht : ∀ u v : Uuid, ¬u < v → ¬v < u → u = v := Std.Trichotomous.trichotomous
    exact eq_of_uuid (ht i.uuid j.uuid h k)

end JobId

namespace Index

/-- Records under their ids, and the ids of those that wait. -/
structure Exact (ix : Index) : Prop where
  keyed : ∀ id j, ix.find? id = some j → j.id = id
  ordered : ix.pending.Pairwise (· < ·)
  waiting : ∀ id, id ∈ ix.pending ↔ ∃ j, ix.find? id = some j ∧ j.status = .pending

theorem exact_empty : Exact .empty where
  keyed _ _ h := nomatch h
  ordered := .nil
  waiting id := by simp [empty,find?,Table.find?]

theorem mem_load (ix : Index) (j : Job) (id : JobId) : id ∈ (ix.load j).pending ↔
    (id = j.id ∧ j.status = .pending) ∨ id ∈ ix.pending := by
  unfold Index.load
  dsimp only
  split
  · rename_i hs
    simp [Sorted.mem_insert,hs]
  · rename_i hs
    simp [hs]

theorem load_ordered {ix : Index} (h : ix.pending.Pairwise (· < ·)) (j : Job) :
    (ix.load j).pending.Pairwise (· < ·) := by
  unfold Index.load
  dsimp only
  split
  · exact Sorted.insert_pairwise h j.id
  · exact h

theorem replace_ordered {ix : Index} (h : ix.pending.Pairwise (· < ·)) (id : JobId) (old new : Job) :
    (ix.replace id old new).pending.Pairwise (· < ·) := by
  unfold Index.replace
  dsimp only
  split
  · exact h.sublist (Sorted.erase_sublist id ix.pending)
  · split
    · exact Sorted.insert_pairwise h id
    · exact h

/-- Nothing is said of the other ids. -/
theorem mem_replace_other (ix : Index) {i id : JobId} (old new : Job) (h : i ≠ id) :
    i ∈ (ix.replace id old new).pending ↔ i ∈ ix.pending := by
  unfold Index.replace
  dsimp only
  split
  · exact Sorted.mem_erase_of_ne _ h
  · split
    · simp [Sorted.mem_insert,h]
    · rfl

namespace Exact

variable {ix iy : Index} {id : JobId} {old new j : Job}

theorem load (h : ix.Exact) (hn : ix.find? j.id = none) : (ix.load j).Exact where
  keyed id k hk := by
    rw [find?_load] at hk
    split at hk
    · rename_i he
      cases hk
      exact he
    · exact h.keyed id k hk
  ordered := load_ordered h.ordered j
  waiting id := by
    have hj : j.id ∉ ix.pending := by
      intro hm
      obtain ⟨k,hk,_⟩ := (h.waiting j.id).mp hm
      rw [hn] at hk
      cases hk
    rw [mem_load,find?_load]
    by_cases he : j.id = id
    · subst he
      simp [hj]
    · simp [he,Ne.symm he,h.waiting id]

/-- Whether the other record waits decides whether its id does. -/
theorem mem_replace_self (h : ix.Exact) (hold : ix.find? id = some old) :
    id ∈ (ix.replace id old new).pending ↔ new.status = .pending := by
  have hid : id ∈ ix.pending ↔ old.status = .pending := by
    simp [h.waiting id,hold]
  have hgone := Sorted.not_mem_erase (k := id) h.ordered.nodup
  unfold Index.replace
  dsimp only
  split
  · rename_i hs
    simp [hgone,hs.2]
  · split
    · rename_i hs
      simp [Sorted.mem_insert,hs.2]
    · rw [hid]
      tauto

theorem replace (h : ix.Exact) (hold : ix.find? id = some old) (hnew : new.id = id) :
    (ix.replace id old new).Exact where
  keyed i k hk := by
    rw [find?_replace] at hk
    split at hk
    · rename_i he
      cases hk
      exact hnew.trans he
    · exact h.keyed i k hk
  ordered := replace_ordered h.ordered id old new
  waiting i := by
    rw [find?_replace]
    by_cases he : id = i
    · subst he
      simp [h.mem_replace_self hold]
    · rw [mem_replace_other ix old new (Ne.symm he),h.waiting i,if_neg he]

/-- Which ids wait, and in which order, is told by the records alone. -/
theorem pending_eq (h : ix.Exact) (hy : iy.Exact)
    (hs : ∀ id, (iy.find? id).map Job.status = (ix.find? id).map Job.status) :
    iy.pending = ix.pending := by
  apply hy.ordered.eq_of_mem_iff h.ordered
  intro id
  have hmem {iz : Index} (hz : iz.Exact) :
      id ∈ iz.pending ↔ (iz.find? id).map Job.status = some .pending := by
    rw [hz.waiting,Option.map_eq_some_iff]
  rw [hmem hy,hmem h,hs]

end Exact

end Index

namespace Store

/-- Errors included, the ids that wait are those of the records that wait. -/
theorem Outcome.exact {s : Store} (h : s.Outcome o r ix) (he : s.index.Exact) : ix.Exact := by
  cases h with
  | failed e => exact he
  | created fresh => exact he.load fresh
  | got found => exact he
  | updated found changed =>
    exact he.replace found ((Job.changeAll_id changed).trans (he.keyed _ _ found))
  | idle => exact he
  | claimed chosen =>
    have found := (candidate?_some chosen).1
    exact he.replace found ((Job.taken_id _ _).trans (he.keyed _ _ found))

theorem exact_lasting : Lasting (fun s => s.index.Exact) where
  create s j h := (create_outcome s j).exact h
  get s id h := (get_outcome s id).exact h
  update s id changes h := (update_outcome s id changes).exact h
  next s f now h := (next_outcome s f now).exact h
  plan _ _ _ h := h

end Store

end BuildFarm
