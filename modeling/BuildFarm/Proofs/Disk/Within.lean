import BuildFarm.Proofs.Disk.Destination

namespace BuildFarm

namespace Disk

theorem look_destination {d : Disk} {p : Path} (h : d.look p = .ok (names,n)) :
    names = destination p ∧ d.node? names = some n := by
  obtain ⟨s,hs,h⟩ := ok_of_bind h
  obtain ⟨m,hm,h⟩ := ok_of_bind h
  have hd := spot_destination hs
  have hn := nodeAt_ok hm
  cases m with
  | none => cases h
  | some m =>
    cases m with
    | folder =>
      cases h
      exact ⟨hd,hn⟩
    | file bs =>
      dsimp only at h
      split at h
      · cases h
      · cases h
        exact ⟨hd,hn⟩

/-- A file that is added stands where nothing was. -/
theorem addFile_destination {d e : Disk} {p : Path} (h : d.addFile p bs = .ok e) :
    d.node? (destination p) = none ∧ e = d.put (destination p) (.file bs) := by
  obtain ⟨s,hs,h⟩ := ok_of_bind h
  rw [← spot_destination hs]
  split at h
  · cases h
  · obtain ⟨n,hn,h⟩ := ok_of_bind h
    cases n with
    | some n => cases h
    | none => exact ⟨nodeAt_ok hn,(Except.ok.inj h).symm⟩

theorem contents_destination {d : Disk} {p : Path} (h : d.contents p = .ok bs) :
    d.node? (destination p) = some (.file bs) := by
  obtain ⟨⟨names,n⟩,hl,hn⟩ := ok_of_bind h
  obtain ⟨rfl,hd⟩ := look_destination hl
  cases n with
  | folder => cases hn
  | file cs =>
    cases hn
    exact hd

/-- The files that are not in the folder are as they were, and all folders are still there. -/
structure Within (above : List String) (d e : Disk) : Prop where
  files : ∀ cs bs, ¬Inside above cs →
    (e.node? cs = some (.file bs) ↔ d.node? cs = some (.file bs))
  folders : FoldersStay d e

namespace Within

variable {above : List String} {name target : String} {d e f : Disk} {p : Path}

theorem refl (above : List String) (d : Disk) : Within above d d :=
  ⟨fun _ _ _ => Iff.rfl,fun _ h => h⟩

theorem trans (h : Within above d e) (k : Within above e f) : Within above d f :=
  ⟨fun cs bs hc => (k.files cs bs hc).trans (h.files cs bs hc),h.folders.trans k.folders⟩

theorem of_only (h : OnlyFolders d e) (above : List String) : Within above d e := by
  refine ⟨?_,h.stays⟩
  intro cs bs _
  rcases h cs with he | ⟨hd,he⟩
  · rw [he]
  · simp [hd,he]

theorem put (hn : d.node? (above ++ [name]) ≠ some .folder) (bs : Bytes) :
    Within above d (d.put (above ++ [name]) (.file bs)) := by
  refine ⟨?_,foldersStay_put (ne_nil name) hn _⟩
  intro cs cont hc
  rw [node?_put _ _ (ne_nil name),if_neg]
  intro he
  exact hc ⟨name,he.symm⟩

theorem erase (hn : d.node? (above ++ [name]) ≠ some .folder) :
    Within above d (d.erase (above ++ [name])) := by
  refine ⟨?_,foldersStay_erase hn⟩
  intro cs cont hc
  rw [node?_erase]
  intro he
  exact hc ⟨name,he.symm⟩

theorem save (ho : Own name) (h : d.save (p.join name) bs = .ok e) :
    Within (destination p) d e := by
  obtain ⟨_,hn,rfl⟩ := save_destination h
  rw [destination_join p ho] at hn ⊢
  exact put hn bs

theorem addFile (ho : Own name) (h : d.addFile (p.join name) bs = .ok e) :
    Within (destination p) d e := by
  obtain ⟨hn,rfl⟩ := addFile_destination h
  rw [destination_join p ho] at hn ⊢
  apply put
  simp [hn]

theorem link (ht : Own target) (h : d.link source (p.join target) = .ok e) :
    Within (destination p) d e := by
  obtain ⟨bs,_,h⟩ := ok_of_bind h
  exact addFile ht h

theorem unlink (ho : Own name) (h : d.unlink (p.join name) = .ok e) :
    Within (destination p) d e := by
  obtain ⟨⟨names,n⟩,hl,h⟩ := ok_of_bind h
  obtain ⟨rfl,hn⟩ := look_destination hl
  cases n with
  | folder => cases h
  | file bs =>
    cases h
    rw [destination_join p ho] at hn ⊢
    apply erase
    simp [hn]

theorem rename (ho : Own name) (ht : Own target)
    (h : d.rename (p.join name) (p.join target) = .ok e) : Within (destination p) d e := by
  obtain ⟨⟨names,n⟩,hl,h⟩ := ok_of_bind h
  obtain ⟨bs,hbs,h⟩ := ok_of_bind h
  obtain ⟨rfl,hn⟩ := look_destination hl
  cases n with
  | folder => cases hbs
  | file cs =>
    have hs := save ht h
    rw [destination_join p ho] at hn hs
    exact (erase (by simp [hn])).trans hs

/-- What is read by a path that leads elsewhere is read as before. -/
theorem contents (h : Within above d e) (hp : ¬Inside above (destination p))
    (hc : d.contents p = .ok bs) : e.contents p = .ok bs := by
  have hd := contents_destination hc
  apply contents_kept h.folders _ hc
  rw [hd]
  exact (h.files _ bs hp).mpr hd

end Within

end Disk

end BuildFarm
