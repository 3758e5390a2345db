import BuildFarm.Proofs.Disk

namespace BuildFarm

namespace Disk

/-- What is there stays as it is. -/
def Grows (d e : Disk) : Prop :=
  ∀ cs n, d.node? cs = some n → e.node? cs = some n

theorem Grows.refl (d : Disk) : Grows d d :=
  fun _ _ h => h

theorem Grows.trans {d e f : Disk} (h : Grows d e) (k : Grows e f) : Grows d f :=
  fun cs n hn => k cs n (h cs n hn)

theorem Grows.stays {d e : Disk} (h : Grows d e) : FoldersStay d e :=
  fun cs hc => h cs .folder hc

theorem grows_put {d : Disk} {cs : List String} (h : d.node? cs = none) (hc : cs ≠ []) (n : Node) :
    Grows d (d.put cs n) := by
  intro ds m hm
  rw [node?_put d n hc]
  split
  · rename_i he
    rw [← he,h] at hm
    cases hm
  · exact hm

theorem spot_stays {d e : Disk} {p : Path} (h : FoldersStay d e) (hs : d.spot p = .ok s) :
    e.spot p = .ok s := by
  unfold spot at hs ⊢
  split at hs
  · cases hs
  · exact walk_stays h hs

theorem look_grows {d e : Disk} {p : Path} (h : Grows d e) (hl : d.look p = .ok x) :
    e.look p = .ok x := by
  obtain ⟨s,hs,hl⟩ := ok_of_bind hl
  obtain ⟨n,hn,hl⟩ := ok_of_bind hl
  unfold look
  rw [spot_stays h.stays hs]
  cases n with
  | none => cases hl
  | some n =>
    have he : e.nodeAt s = .ok (some n) := by
      unfold nodeAt at hn ⊢
      split at hn
      · cases hn
      · rename_i hlen
        rw [if_neg hlen,h _ _ (Except.ok.inj hn)]
    simp only [bind,Except.bind,he]
    exact hl

theorem contents_grows {d e : Disk} {p : Path} (h : Grows d e) (hc : d.contents p = .ok bs) :
    e.contents p = .ok bs := by
  obtain ⟨x,hx,hc⟩ := ok_of_bind hc
  unfold contents
  rw [look_grows h hx]
  exact hc

theorem hasAt_ok {d : Disk} {p : Path} : d.hasAt p = .ok true ↔ ∃ x, d.look p = .ok x := by
  unfold hasAt
  split <;> simp_all

/-- Nothing has changed but that there are folders where nothing was. -/
def OnlyFolders (d e : Disk) : Prop :=
  ∀ cs, e.node? cs = d.node? cs ∨ (d.node? cs = none ∧ e.node? cs = some .folder)

theorem OnlyFolders.refl (d : Disk) : OnlyFolders d d :=
  fun _ => Or.inl rfl

theorem OnlyFolders.trans {d e f : Disk} (h : OnlyFolders d e) (k : OnlyFolders e f) :
    OnlyFolders d f := by
  intro cs
  rcases k cs with he | ⟨hn,hf⟩
  · rw [he]
    exact h cs
  · rcases h cs with hd | ⟨hd,he⟩
    · exact Or.inr ⟨hd.symm.trans hn,hf⟩
    · simp [he] at hn

theorem OnlyFolders.grows {d e : Disk} (h : OnlyFolders d e) : Grows d e := by
  intro cs n hc
  rcases h cs with he | ⟨hn,_⟩
  · exact he.trans hc
  · simp [hc] at hn

theorem OnlyFolders.stays {d e : Disk} (h : OnlyFolders d e) : FoldersStay d e :=
  h.grows.stays

theorem names_ne_nil {d : Disk} {cs : List String} (h : d.node? cs = none) : cs ≠ [] := by
  rintro rfl
  simp [node?] at h

theorem addFolder_ok {d e : Disk} (h : d.addFolder names = .ok e) :
    ∃ s, d.walk [] names = .ok s ∧ d.nodeAt s = .ok none ∧ e = d.put s.names .folder := by
  obtain ⟨s,hs,h⟩ := ok_of_bind h
  obtain ⟨n,hn,h⟩ := ok_of_bind h
  split at h
  · cases h
  · cases h
    exact ⟨s,hs,hn,rfl⟩

theorem addFolder_only {d e : Disk} (h : d.addFolder names = .ok e) : OnlyFolders d e := by
  obtain ⟨s,_,hn,rfl⟩ := addFolder_ok h
  have hnone := nodeAt_ok hn
  intro cs
  rw [node?_put _ _ (names_ne_nil hnone)]
  split
  · rename_i hc
    exact Or.inr ⟨hc ▸ hnone,rfl⟩
  · exact Or.inl rfl

theorem isFolderAt_iff {d : Disk} : d.isFolderAt names = true ↔
    ∃ s, d.walk [] names = .ok s ∧ d.nodeAt s = .ok (some .folder) := by
  unfold isFolderAt
  cases d.walk [] names with
  | error e => simp
  | ok s => cases hn : d.nodeAt s <;> simp [hn,Except.toOption]

theorem isFolderAt_stays {d e : Disk} (h : FoldersStay d e) (hd : d.isFolderAt names = true) :
    e.isFolderAt names = true := by
  obtain ⟨s,hw,hn⟩ := isFolderAt_iff.mp hd
  exact isFolderAt_iff.mpr ⟨s,walk_stays h hw,nodeAt_stays h hn⟩

theorem addFolder_found {d e : Disk} (h : d.addFolder names = .ok e) :
    e.isFolderAt names = true := by
  have hstay := (addFolder_only h).stays
  obtain ⟨s,hw,hn,rfl⟩ := addFolder_ok h
  refine isFolderAt_iff.mpr ⟨s,walk_stays hstay hw,?_⟩
  have hnode := node?_put d .folder (names_ne_nil (nodeAt_ok hn)) s.names
  unfold nodeAt at hn ⊢
  split at hn
  · cases hn
  · rename_i hl
    simp [hl,hnode]

theorem addFolders_only (d : Disk) (folders : List (List String)) :
    OnlyFolders d (d.addFolders folders).2 := by
  induction folders generalizing d with
  | nil => exact .refl d
  | cons names rest ih =>
    unfold addFolders
    split
    · rename_i ha
      exact (addFolder_only ha).trans (ih _)
    · split
      · exact ih d
      · exact .refl d

theorem addFolders_found {d e : Disk} {folders : List (List String)}
    (h : d.addFolders folders = (.ok (),e)) (hm : names ∈ folders) :
    e.isFolderAt names = true := by
  induction folders generalizing d with
  | nil => simp at hm
  | cons first rest ih =>
    unfold addFolders at h
    split at h
    · rename_i d' ha
      rcases List.mem_cons.mp hm with rfl | hm
      · have hs := addFolders_only d' rest
        rw [h] at hs
        exact isFolderAt_stays hs.stays (addFolder_found ha)
      · exact ih h hm
    · split at h
      · rename_i hf
        rcases List.mem_cons.mp hm with rfl | hm
        · have hs := addFolders_only d rest
          rw [h] at hs
          exact isFolderAt_stays hs.stays hf.2
        · exact ih h hm
      · cases h

theorem addMissing_only (d : Disk) (missing folders : List (List String)) :
    OnlyFolders d (d.addMissing missing folders).2 := by
  induction folders generalizing missing with
  | nil => exact addFolders_only d missing
  | cons names rest ih =>
    unfold addMissing
    split
    · rename_i ha
      exact (addFolder_only ha).trans (addFolders_only _ missing)
    · exact ih _
    · split
      · exact addFolders_only d missing
      · exact .refl d

/-- Where it succeeds, those that were missing are there, and the first that was tried. -/
theorem addMissing_found {d e : Disk} {missing folders : List (List String)}
    (h : d.addMissing missing folders = (.ok (),e))
    (hm : names ∈ missing ∨ folders.head? = some names) : e.isFolderAt names = true := by
  induction folders generalizing missing with
  | nil =>
    rcases hm with hm | hm
    · exact addFolders_found h hm
    · cases hm
  | cons first rest ih =>
    have hlast {d' : Disk} (hd : d'.addFolders missing = (.ok (),e))
        (hf : d'.isFolderAt first = true) : e.isFolderAt names = true := by
      rcases hm with hm | hm
      · exact addFolders_found hd hm
      · cases hm
        have hs := addFolders_only d' missing
        rw [hd] at hs
        exact isFolderAt_stays hs.stays hf
    unfold addMissing at h
    split at h
    · rename_i ha
      exact hlast h (addFolder_found ha)
    · refine ih h (Or.inl ?_)
      rcases hm with hm | hm
      · exact List.mem_cons_of_mem _ hm
      · cases hm
        exact List.mem_cons_self
    · split at h
      · rename_i hf
        exact hlast h hf.2
      · cases h

theorem createFolders_only (d : Disk) (p : Path) : OnlyFolders d (d.createFolders p).2 := by
  unfold createFolders
  split
  · exact .refl d
  · exact addMissing_only d [] (lineage p)

/-- A folder that was created can be reached. -/
theorem createFolders_opens {d e : Disk} {p : Path} (h : d.createFolders p = (.ok (),e)) :
    ∃ above, e.Opens p above := by
  unfold createFolders at h
  split at h
  · cases h
  · rename_i hp
    have hfound : e.isFolderAt p.names = true := addMissing_found h (Or.inr rfl)
    obtain ⟨s,hw,hn⟩ := isFolderAt_iff.mp hfound
    exact ⟨s.names,hp,s,hw,hn,rfl⟩

end Disk

end BuildFarm
