import BuildFarm.Proofs.Disk.Renaming

namespace BuildFarm

namespace Disk

def SameFolders (d e : Disk) : Prop :=
  ∀ cs, d.node? cs = some .folder ↔ e.node? cs = some .folder

namespace SameFolders

variable {d e f : Disk}

theorem refl (d : Disk) : SameFolders d d :=
  fun _ => Iff.rfl

theorem symm (h : SameFolders d e) : SameFolders e d :=
  fun cs => (h cs).symm

theorem trans (h : SameFolders d e) (k : SameFolders e f) : SameFolders d f :=
  fun cs => (h cs).trans (k cs)

theorem stays (h : SameFolders d e) : FoldersStay d e :=
  fun cs hc => (h cs).mp hc

end SameFolders

theorem sameFolders_put {d : Disk} {cs : List String} (hc : cs ≠ [])
    (h : d.node? cs ≠ some .folder) (bs : Bytes) : SameFolders d (d.put cs (.file bs)) := by
  intro ds
  rw [node?_put d _ hc]
  split
  · rename_i he
    subst he
    simp [h]
  · rfl

theorem sameFolders_erase {d : Disk} (hd : d.Ordered) {cs : List String} (hc : cs ≠ [])
    (h : d.node? cs ≠ some .folder) : SameFolders d (d.erase cs) := by
  intro ds
  by_cases he : cs = ds
  · subst he
    simp [h,node?_erase_self hd hc]
  · rw [node?_erase d he]

/-- What is written does not decide whether it can be. -/
theorem save_any (d : Disk) (p : Path) (bs cs : Bytes) :
    Both Eq (fun _ _ => True) (d.save p bs) (d.save p cs) := by
  unfold save
  refine (Both.refl (d.spot p)).bind ?_
  rintro s _ rfl
  dsimp only
  split
  · exact .error rfl
  · refine (Both.refl (d.nodeAt s)).bind ?_
    rintro n _ rfl
    split
    · exact .error rfl
    · exact .ok trivial

/-- A file is written where the folder is open. -/
theorem opens_of_save {d e : Disk} {p : Path} {name : String} (ho : Own name)
    (h : d.save (p.join name) bs = .ok e) : ∃ above, d.Opens p above := by
  obtain ⟨folder,last,hs,_⟩ := save_ok.mp h
  exact opens_of_spot ho hs

namespace Opens

variable {d e : Disk} {p : Path} {above : List String} {name target : String}

theorem save_folder (h : d.Opens p above) (ho : Own name) (hf : Fits p name)
    (hn : d.node? (above ++ [name]) = some .folder) (bs : Bytes) :
    d.save (p.join name) bs = .error .isFolder := by
  simp [save,h.spot_fits ho hf.path,nodeAt_fits hf,asksForFolder_join p ho,hn,bind,Except.bind]
  rfl

/-- What does not fit is refused for that, on whatever disk. -/
theorem save_unfit (above : List String) (ho : Own name) (hf : ¬Fits p name) :
    ∃ x, ∀ (d : Disk) bs, d.Opens p above → d.save (p.join name) bs = .error x := by
  by_cases hp : objection? (p.join name) = none
  · have hl : maxNameBytes < name.utf8ByteSize := by
      by_contra hl
      exact hf ⟨hp,Nat.le_of_not_lt hl⟩
    refine ⟨.nameTooLong,fun d bs h => ?_⟩
    simp [save,h.spot_fits ho hp,nodeAt,hl,asksForFolder_join p ho,bind,Except.bind]
  · obtain ⟨x,hx⟩ := Option.ne_none_iff_exists'.mp hp
    exact ⟨x,fun d bs _ => by simp [save,spot,hx,bind,Except.bind]⟩

theorem save_both (h : d.Opens p above) (hs : SameFolders d e) (ho : Own name) (bs cs : Bytes) :
    Both Eq (fun d' e' => d' = d.put (above ++ [name]) (.file bs) ∧
      e' = e.put (above ++ [name]) (.file cs)) (d.save (p.join name) bs) (e.save (p.join name) cs) := by
  have he := h.stays hs.stays
  by_cases hf : Fits p name
  · by_cases hd : d.node? (above ++ [name]) = some .folder
    · rw [h.save_folder ho hf hd,he.save_folder ho hf ((hs _).mp hd)]
      exact .error rfl
    · rw [h.save_fits ho hf hd,he.save_fits ho hf (mt (hs _).mpr hd)]
      exact .ok ⟨rfl,rfl⟩
  · obtain ⟨x,hx⟩ := save_unfit above ho hf
    rw [hx d bs h,hx e cs he]
    exact .error rfl

theorem fits_of_save (h : d.Opens p above) (ho : Own name)
    (hs : d.save (p.join name) bs = .ok e) : Fits p name := by
  by_contra hf
  obtain ⟨x,hx⟩ := save_unfit above ho hf
  cases (hx d bs h).symm.trans hs

theorem rename_fits (h : d.Opens p above) (ho : Own name) (hf : Fits p name)
    (hn : d.node? (above ++ [name]) = some (.file bs)) (q : Path) :
    d.rename (p.join name) q = (d.erase (above ++ [name])).save q bs := by
  unfold rename
  rw [h.look_fits ho hf,hn]
  rfl

/-- A file that is found on both disks can be moved on both or on none. -/
theorem rename_both (h : d.Opens p above) (hs : SameFolders d e) (hd : d.Ordered) (he : e.Ordered)
    (ho : Own name) (ht : Own target) (hf : Fits p name)
    (hn : d.node? (above ++ [name]) = some (.file bs))
    (hm : e.node? (above ++ [name]) = some (.file cs)) :
    Both Eq (fun _ _ => True) (d.rename (p.join name) (p.join target))
      (e.rename (p.join name) (p.join target)) := by
  have hdf : d.node? (above ++ [name]) ≠ some .folder := by simp [hn]
  have hef : e.node? (above ++ [name]) ≠ some .folder := by simp [hm]
  have hleft := sameFolders_erase hd (ne_nil name) hdf
  have hright := sameFolders_erase he (ne_nil name) hef
  have hsave := (h.stays hleft.stays).save_both (hleft.symm.trans (hs.trans hright)) ht bs cs
  rw [h.rename_fits ho hf hn,(h.stays hs.stays).rename_fits ho hf hm]
  exact hsave.imp (fun _ _ _ => trivial)

end Opens

/-- Disks on which the same can be written in the folder: they are one, or have the same folders,
the one of the path among them. -/
structure Interchangeable (p : Path) (d e : Disk) : Prop where
  left : d.Ordered
  right : e.Ordered
  apart : d = e ∨ ((∃ above, d.Opens p above) ∧ SameFolders d e)

namespace Interchangeable

variable {d e f : Disk} {p : Path} {name target : String}

theorem refl (h : d.Ordered) (p : Path) : Interchangeable p d d :=
  ⟨h,h,Or.inl rfl⟩

theorem symm (h : Interchangeable p d e) : Interchangeable p e d := by
  refine ⟨h.right,h.left,?_⟩
  rcases h.apart with rfl | ⟨⟨above,ho⟩,hs⟩
  · exact Or.inl rfl
  · exact Or.inr ⟨⟨above,ho.stays hs.stays⟩,hs.symm⟩

theorem trans (h : Interchangeable p d e) (k : Interchangeable p e f) : Interchangeable p d f := by
  refine ⟨h.left,k.right,?_⟩
  rcases h.apart with rfl | ⟨ho,hs⟩
  · exact k.apart
  · rcases k.apart with rfl | ⟨_,ks⟩
    · exact Or.inr ⟨ho,hs⟩
    · exact Or.inr ⟨ho,hs.trans ks⟩

theorem of_save (hd : d.Ordered) (ho : Own name) (h : d.save (p.join name) bs = .ok e) :
    Interchangeable p d e := by
  obtain ⟨above,hp⟩ := opens_of_save ho h
  obtain ⟨hf,rfl⟩ := hp.save_join ho h
  exact ⟨hd,hd.put _ _,Or.inr ⟨⟨above,hp⟩,sameFolders_put (ne_nil name) hf bs⟩⟩

theorem of_rename (hd : d.Ordered) (ho : Own name) (ht : Own target)
    (h : d.rename (p.join name) (p.join target) = .ok e) : Interchangeable p d e := by
  obtain ⟨x,hl,_⟩ := ok_of_bind h
  obtain ⟨above,hp⟩ := opens_of_look ho hl
  obtain ⟨bs,hn,hf,rfl⟩ := hp.rename_join ho ht h
  have hfile : d.node? (above ++ [name]) ≠ some .folder := by simp [hn]
  have hgone := sameFolders_erase hd (ne_nil name) hfile
  exact ⟨hd,(hd.erase _).put _ _,
    Or.inr ⟨⟨above,hp⟩,hgone.trans (sameFolders_put (ne_nil target) hf bs)⟩⟩

theorem folders (h : Interchangeable p d e) : SameFolders d e := by
  rcases h.apart with rfl | ⟨_,hs⟩
  · exact .refl d
  · exact hs

theorem save (h : Interchangeable p d e) (ho : Own name) (bs cs : Bytes) :
    Both Eq (fun _ _ => True) (d.save (p.join name) bs) (e.save (p.join name) cs) := by
  rcases h.apart with rfl | ⟨⟨above,hp⟩,hs⟩
  · exact save_any d _ bs cs
  · exact (hp.save_both hs ho bs cs).imp (fun _ _ _ => trivial)

/-- A file that was just written is moved, whatever is in it. -/
theorem rename {d' e' : Disk} (h : Interchangeable p d e) (ho : Own name) (ht : Own target)
    (hd : d.save (p.join name) bs = .ok d') (he : e.save (p.join name) cs = .ok e') :
    Both Eq (fun _ _ => True) (d'.rename (p.join name) (p.join target))
      (e'.rename (p.join name) (p.join target)) := by
  have hl := of_save h.left ho hd
  have hr := of_save h.right ho he
  obtain ⟨above,hp⟩ := opens_of_save ho hd
  have hfit := hp.fits_of_save ho hd
  have hs := h.folders
  obtain ⟨hdf,rfl⟩ := hp.save_join ho hd
  obtain ⟨hef,rfl⟩ := (hp.stays hs.stays).save_join ho he
  have hput := sameFolders_put (ne_nil name) hdf bs
  have hput' := sameFolders_put (ne_nil name) hef cs
  have hself {g : Disk} {xs : Bytes} :
      (g.put (above ++ [name]) (.file xs)).node? (above ++ [name]) = some (.file xs) := by
    rw [node?_put _ _ (ne_nil name),if_pos rfl]
  exact (hp.stays hput.stays).rename_both (hput.symm.trans (hs.trans hput')) hl.right hr.right ho ht
    hfit hself hself

end Interchangeable

end Disk

end BuildFarm
