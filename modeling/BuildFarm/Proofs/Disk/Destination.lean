import BuildFarm.Proofs.Disk.Folders
import BuildFarm.Proofs.Disk.Renaming

namespace BuildFarm

namespace Disk

theorem enter_stepTo {d : Disk} (h : d.enter folder name = .ok g) : g = stepTo folder name := by
  unfold enter at h
  unfold stepTo
  split at h
  · rename_i hd
    rw [if_pos hd]
    exact (Except.ok.inj h).symm
  · rename_i hd
    rw [if_neg hd]
    split at h
    · rename_i hdd
      rw [if_pos hdd]
      exact (Except.ok.inj h).symm
    · rename_i hdd
      rw [if_neg hdd]
      split at h
      · cases h
      · split at h <;> cases h
        rfl

theorem walk_destination {d : Disk} {names : List String} (h : d.walk folder names = .ok s) :
    s.names = names.foldl stepTo folder := by
  induction names generalizing folder with
  | nil =>
    cases h
    simp [Spot.names]
  | cons name rest ih =>
    cases rest with
    | nil =>
      simp only [walk] at h
      simp only [List.foldl_cons,List.foldl_nil,stepTo]
      split at h
      · rename_i hd
        cases h
        simp [Spot.names,hd]
      · rename_i hd
        rw [if_neg hd]
        split at h
        · rename_i hdd
          cases h
          simp [Spot.names,hdd]
        · rename_i hdd
          cases h
          simp [Spot.names,hdd]
    | cons next rest =>
      rw [walk_cons] at h
      obtain ⟨g,hg,h⟩ := ok_of_bind h
      rw [ih h,enter_stepTo hg]
      rfl

theorem spot_destination {d : Disk} {p : Path} (h : d.spot p = .ok s) :
    s.names = destination p := by
  unfold spot at h
  split at h
  · cases h
  · exact walk_destination h

/-- A file that is written stands at the destination of its path, where no folder was. -/
theorem save_destination {d e : Disk} {p : Path} (h : d.save p bs = .ok e) :
    destination p ≠ [] ∧ d.node? (destination p) ≠ some .folder ∧
      e = d.put (destination p) (.file bs) := by
  obtain ⟨folder,name,hs,_,_,hn,rfl⟩ := save_ok.mp h
  have hd : folder ++ [name] = destination p := spot_destination hs
  rw [← hd]
  exact ⟨ne_nil name,hn,rfl⟩

/-- A file that stays where it is can be read by its path as long as the folders stay too. -/
theorem contents_kept {d e : Disk} {p : Path} (hf : FoldersStay d e)
    (hn : e.node? (destination p) = d.node? (destination p)) (hc : d.contents p = .ok bs) :
    e.contents p = .ok bs := by
  obtain ⟨x,hx,hc⟩ := ok_of_bind hc
  obtain ⟨s,hs,hx⟩ := ok_of_bind hx
  have he : e.nodeAt s = d.nodeAt s := by
    rw [nodeAt,nodeAt,spot_destination hs,hn]
  have hlook : e.look p = .ok x := by
    unfold look
    rw [spot_stays hf hs]
    simp only [bind,Except.bind,he]
    exact hx
  unfold contents
  rw [hlook]
  exact hc

end Disk

end BuildFarm
