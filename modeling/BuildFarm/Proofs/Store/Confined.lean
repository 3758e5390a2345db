import BuildFarm.Proofs.Disk.Within
import BuildFarm.Proofs.Store.Mirror
import BuildFarm.Proofs.Store.Run

namespace BuildFarm

namespace Store

open Disk

/-- What can become of a store by its own writes. -/
structure Confined (s t : Store) : Prop where
  root : t.root = s.root
  memory : s.root = none → t.disk = s.disk
  folder : ∀ home, s.root = some home → Within (destination home) s.disk t.disk

namespace Confined

variable {s t u : Store}

theorem of_disk (hr : t.root = s.root) (hd : t.disk = s.disk) : Confined s t := by
  refine ⟨hr,fun _ => hd,?_⟩
  intro home _
  rw [hd]
  exact .refl _ _

theorem of_within {home : Path} (hs : s.root = some home) (hr : t.root = s.root)
    (h : Within (destination home) s.disk t.disk) : Confined s t := by
  refine ⟨hr,?_,?_⟩
  · intro hn
    rw [hs] at hn
    cases hn
  · intro other ho
    rw [hs] at ho
    cases ho
    exact h

theorem trans (h : Confined s t) (k : Confined t u) : Confined s u where
  root := k.root.trans h.root
  memory hn := (k.memory (h.root.trans hn)).trans (h.memory hn)
  folder home hr := (h.folder home hr).trans (k.folder home (h.root.trans hr))

end Confined

variable {s : Store} {home : Path}

theorem writeRecord_confined (hr : s.root = some home) (j : Job) :
    Confined s (s.writeRecord home j).2 := by
  unfold writeRecord
  dsimp only
  cases hs : s.disk.save (tempPath home j.id) (recordBytes j) with
  | error e => exact .of_disk rfl rfl
  | ok d =>
    have hsaved : Within (destination home) s.disk d := .save (own_tempName j.id) hs
    dsimp only
    cases hm : d.rename (tempPath home j.id) (recordPath home j.id) with
    | error e => exact .of_within hr rfl hsaved
    | ok e =>
      have hmoved : Within (destination home) d e :=
        .rename (own_tempName j.id) (own_recordName j.id) hm
      exact .of_within hr rfl (hsaved.trans hmoved)

/-- A write that fails can leave something in the temporary file. -/
theorem failWrite_confined (hr : s.root = some home) (j : Job) (f : WriteFailure) :
    Confined s (s.failWrite home j f).2 := by
  unfold failWrite
  cases f.left with
  | none => exact .of_disk rfl rfl
  | some bs =>
    dsimp only
    cases hs : s.disk.save (tempPath home j.id) bs with
    | error e => exact .of_disk rfl rfl
    | ok d => exact .of_within hr rfl (.save (own_tempName j.id) hs)

theorem persist_confined (s : Store) (j : Job) : Confined s (s.persist j).2 := by
  obtain ⟨disk,root,index,faults,failures⟩ := s
  unfold persist
  cases root with
  | none => exact .of_disk rfl rfl
  | some home =>
    cases failures with
    | nil => exact writeRecord_confined rfl j
    | cons f rest =>
      have hplanned : Confined ⟨disk,some home,index,faults,f :: rest⟩
          ⟨disk,some home,index,faults,rest⟩ := .of_disk rfl rfl
      cases f with
      | none => exact hplanned.trans (writeRecord_confined rfl j)
      | some f => exact hplanned.trans (failWrite_confined rfl j f)

theorem confined_lasting (s : Store) : Lasting (Confined s) := by
  apply Lasting.of_kept
  · apply Kept.of_persist
    · exact fun t call h => h.trans (.of_disk rfl rfl)
    · exact fun t j h => h.trans (persist_confined t j)
    · exact fun t _ _ _ h => h.trans (.of_disk rfl rfl)
  · exact fun t faults failures h => h.trans (.of_disk rfl rfl)

end Store

end BuildFarm
