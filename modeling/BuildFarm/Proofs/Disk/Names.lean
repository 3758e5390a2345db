import BuildFarm.Proofs.Disk

namespace BuildFarm

namespace Disk

theorem asksForFolder_join (p : Path) {name : String} (h : Own name) :
    Path.asksForFolder (p.join name) = false := by
  have hjoin : ∃ lead, (p.join name).toList = lead ++ name.toList := by
    unfold Path.join
    split
    · exact ⟨_,String.toList_append⟩
    · exact ⟨_,String.toList_append⟩
  obtain ⟨lead,hlead⟩ := hjoin
  obtain ⟨cs,c,hc⟩ := (List.eq_nil_or_concat name.toList).resolve_left h.nonempty
  have hslash : c ≠ '/' := by
    rintro rfl
    exact h.slash (by simp [hc])
  simp [Path.asksForFolder,hlead,hc,← List.append_assoc,hslash]

/-- All that a walk has come through so far are folders. -/
def Trodden (d : Disk) (folder : List String) : Prop :=
  ∀ k, d.node? (folder.take k) = some .folder

theorem trodden_root (d : Disk) : d.Trodden [] := by
  intro k
  simp [node?]

theorem Trodden.here {d : Disk} (h : d.Trodden folder) : d.node? folder = some .folder := by
  simpa using h folder.length

theorem Trodden.enter {d : Disk} (h : d.Trodden folder) (he : d.enter folder name = .ok g) :
    d.Trodden g := by
  unfold Disk.enter at he
  split at he
  · cases he
    exact h
  · split at he
    · cases he
      intro k
      rw [List.dropLast_eq_take,List.take_take]
      exact h _
    · split at he
      · cases he
      · split at he
        · cases he
        · cases he
        · rename_i hn
          cases he
          intro k
          by_cases hk : k ≤ folder.length
          · rw [List.take_append_of_le_length hk]
            exact h k
          · rw [List.take_of_length_le (by simp; omega)]
            exact hn

theorem nodeAt_trodden {d : Disk} (h : d.Trodden folder) :
    d.nodeAt ⟨folder,none⟩ = .ok (some .folder) := by
  simp [nodeAt,Spot.names,h.here]

/-- A walk that could go on has led to a folder. -/
theorem walk_before {d : Disk} {names : List String} (h : d.Trodden folder)
    (hw : d.walk folder (names ++ [last]) = .ok s) :
    ∃ t, d.walk folder names = .ok t ∧ d.nodeAt t = .ok (some .folder) := by
  induction names generalizing folder with
  | nil => exact ⟨_,rfl,nodeAt_trodden h⟩
  | cons first rest ih =>
    have hcons : d.walk folder (first :: rest ++ [last]) =
        (d.enter folder first).bind (fun g => d.walk g (rest ++ [last])) := by
      cases rest <;> rfl
    rw [hcons] at hw
    obtain ⟨g,hg,hw⟩ := ok_of_bind hw
    cases rest with
    | cons second rest =>
      rw [walk_cons,hg]
      exact ih (h.enter hg) hw
    | nil =>
      have hn := nodeAt_trodden (h.enter hg)
      unfold walk
      unfold Disk.enter at hg
      split at hg
      · cases hg
        exact ⟨_,if_pos ‹_›,hn⟩
      · rename_i hd
        rw [if_neg hd]
        split at hg
        · cases hg
          exact ⟨_,if_pos ‹_›,hn⟩
        · rename_i hdd
          rw [if_neg hdd]
          split at hg
          · cases hg
          · rename_i hl
            split at hg
            · cases hg
            · cases hg
            · rename_i hf
              exact ⟨_,rfl,by simp [nodeAt,Spot.names,hl,hf]⟩

theorem objection?_folder {p : Path} {name : String} (h : objection? (p.join name) = none) :
    objection? p = none := by
  have hjoin : ∃ rest, p.join name = p ++ rest := by
    unfold Path.join
    split
    · exact ⟨_,rfl⟩
    · exact ⟨_,String.append_assoc⟩
  obtain ⟨rest,hrest⟩ := hjoin
  rw [hrest] at h
  unfold objection? at h ⊢
  split at h
  · cases h
  · rename_i hz
    split at h
    · cases h
    · rename_i hl
      simp only [String.toList_append,List.any_append,Bool.or_eq_true,not_or] at hz
      rw [String.utf8ByteSize_append] at hl
      rw [if_neg hz.1,if_neg (by omega)]

/-- A name can be reached only in a folder that is open. -/
theorem opens_of_spot {d : Disk} {p : Path} {name : String} (ho : Own name)
    (h : d.spot (p.join name) = .ok s) : ∃ above, d.Opens p above := by
  unfold spot at h
  split at h
  · cases h
  · rename_i hp
    rw [Path.names_join p ho.toName] at h
    obtain ⟨t,hw,hn⟩ := walk_before d.trodden_root h
    exact ⟨_,objection?_folder hp,t,hw,hn,rfl⟩

/-- Where something stands under a name, the folder of that name is open. -/
theorem opens_of_look {d : Disk} {p : Path} {name : String} (ho : Own name)
    (h : d.look (p.join name) = .ok x) : ∃ above, d.Opens p above := by
  obtain ⟨s,hs,_⟩ := ok_of_bind h
  exact opens_of_spot ho hs

/-- What is written goes under one name of a folder where no folder is. -/
theorem save_ok {d e : Disk} {p : Path} : d.save p bs = .ok e ↔
    ∃ folder name, d.spot p = .ok ⟨folder,some name⟩ ∧ p.asksForFolder = false ∧
      name.utf8ByteSize ≤ maxNameBytes ∧ d.node? (folder ++ [name]) ≠ some .folder ∧
      e = d.put (folder ++ [name]) (.file bs) := by
  constructor
  · intro h
    obtain ⟨⟨folder,last⟩,hs,h⟩ := ok_of_bind h
    split at h
    · cases h
    · rename_i hc
      obtain ⟨n,hn,h⟩ := ok_of_bind h
      have hnode := nodeAt_ok hn
      cases last with
      | none => simp at hc
      | some name =>
        unfold nodeAt at hn
        split at hn
        · cases hn
        · rename_i hl
          split at h
          · cases h
          · rename_i hf
            refine ⟨folder,name,hs,by simpa using hc,Nat.le_of_not_lt hl,?_,(Except.ok.inj h).symm⟩
            exact fun he => hf (hnode.symm.trans he)
  · rintro ⟨folder,name,hs,ha,hl,hn,rfl⟩
    unfold save
    simp only [hs,bind,Except.bind,ha]
    have hl := Nat.not_lt_of_le hl
    cases hd : d.node? (folder ++ [name]) with
    | none => simp [nodeAt,Spot.names,hl,hd,pure,Except.pure]
    | some n =>
      cases n with
      | folder => exact absurd hd hn
      | file cs => simp [nodeAt,Spot.names,hl,hd,pure,Except.pure]

/-- The name can be asked for in the folder: neither it nor the path is too long. -/
structure Fits (p : Path) (name : String) : Prop where
  path : objection? (p.join name) = none
  name : name.utf8ByteSize ≤ maxNameBytes

namespace Opens

variable {d : Disk} {p : Path} {above : List String} {name : String}

theorem spot_fits (h : d.Opens p above) (ho : Own name) (hf : objection? (p.join name) = none) :
    d.spot (p.join name) = .ok ⟨above,some name⟩ := by
  obtain ⟨_,s,hw,hn,rfl⟩ := h
  simp [spot,hf,Path.names_join p ho.toName,walk_join hw hn ho]

theorem nodeAt_fits (hf : Fits p name) :
    d.nodeAt ⟨above,some name⟩ = .ok (d.node? (above ++ [name])) := by
  have hl := Nat.not_lt_of_le hf.name
  simp [nodeAt,Spot.names,hl]

theorem look_fits (h : d.Opens p above) (ho : Own name) (hf : Fits p name) :
    d.look (p.join name) = match d.node? (above ++ [name]) with
      | none => .error .notFound
      | some n => .ok (above ++ [name],n) := by
  unfold look
  rw [h.spot_fits ho hf.path]
  simp only [bind,Except.bind,nodeAt_fits hf,asksForFolder_join p ho]
  cases d.node? (above ++ [name]) with
  | none => rfl
  | some n => cases n <;> rfl

/-- What cannot be asked for is not said to be missing. -/
theorem look_unfit (h : d.Opens p above) (ho : Own name) (hf : ¬Fits p name) :
    ∃ e, e ≠ .notFound ∧ d.look (p.join name) = .error e := by
  by_cases hp : objection? (p.join name) = none
  · have hl : maxNameBytes < name.utf8ByteSize := by
      by_contra hl
      exact hf ⟨hp,Nat.le_of_not_lt hl⟩
    refine ⟨.nameTooLong,by simp,?_⟩
    simp [look,h.spot_fits ho hp,nodeAt,hl,bind,Except.bind]
  · obtain ⟨e,he⟩ := Option.ne_none_iff_exists'.mp hp
    refine ⟨e,?_,by simp [look,spot,he,bind,Except.bind]⟩
    rintro rfl
    unfold objection? at he
    split at he
    · cases he
    · split at he <;> cases he

theorem hasAt_ok (h : d.Opens p above) (ho : Own name) : d.hasAt (p.join name) = .ok there ↔
    Fits p name ∧ (d.node? (above ++ [name])).isSome = there := by
  unfold hasAt
  by_cases hf : Fits p name
  · rw [h.look_fits ho hf]
    cases d.node? (above ++ [name]) <;> simp [hf]
  · obtain ⟨e,hne,hl⟩ := h.look_unfit ho hf
    rw [hl]
    cases e <;> simp_all

theorem hasAt_false (h : d.Opens p above) (ho : Own name) :
    d.hasAt (p.join name) = .ok false ↔ Fits p name ∧ d.node? (above ++ [name]) = none := by
  rw [h.hasAt_ok ho,Option.isSome_eq_false_iff,Option.isNone_iff_eq_none]

theorem hasAt_true (h : d.Opens p above) (ho : Own name) :
    d.hasAt (p.join name) = .ok true ↔ Fits p name ∧ (d.node? (above ++ [name])).isSome :=
  h.hasAt_ok ho

theorem contents_ok (h : d.Opens p above) (ho : Own name) :
    d.contents (p.join name) = .ok bs ↔
      Fits p name ∧ d.node? (above ++ [name]) = some (.file bs) := by
  unfold contents
  by_cases hf : Fits p name
  · rw [h.look_fits ho hf]
    cases d.node? (above ++ [name]) with
    | none => simp [hf,bind,Except.bind]
    | some n => cases n <;> simp [hf,bind,Except.bind,Node.contents]
  · obtain ⟨e,_,hl⟩ := h.look_unfit ho hf
    simp [hl,hf,bind,Except.bind]

theorem save_fits (h : d.Opens p above) (ho : Own name) (hf : Fits p name)
    (hn : d.node? (above ++ [name]) ≠ some .folder) (bs : Bytes) :
    d.save (p.join name) bs = .ok (d.put (above ++ [name]) (.file bs)) := by
  unfold save
  rw [h.spot_fits ho hf.path]
  simp only [bind,Except.bind,nodeAt_fits hf,asksForFolder_join p ho]
  cases hd : d.node? (above ++ [name]) with
  | none => rfl
  | some n =>
    cases n with
    | folder => exact absurd hd hn
    | file cs => rfl

theorem addFile_fits (h : d.Opens p above) (ho : Own name) (hf : Fits p name) (bs : Bytes) :
    d.addFile (p.join name) bs = match d.node? (above ++ [name]) with
      | none => .ok (d.put (above ++ [name]) (.file bs))
      | some _ => .error .exists := by
  unfold addFile
  rw [h.spot_fits ho hf.path]
  simp only [bind,Except.bind,nodeAt_fits hf,asksForFolder_join p ho]
  cases d.node? (above ++ [name]) <;> rfl

theorem addFile_ok (h : d.Opens p above) (ho : Own name)
    (ha : d.addFile (p.join name) bs = .ok e) :
    Fits p name ∧ d.node? (above ++ [name]) = none ∧ e = d.put (above ++ [name]) (.file bs) := by
  obtain ⟨s,hs,ha⟩ := ok_of_bind ha
  obtain rfl := h.spot_join ho hs
  split at ha
  · cases ha
  · obtain ⟨n,hn,ha⟩ := ok_of_bind ha
    have hnode := nodeAt_ok hn
    split at ha
    · cases ha
    · cases ha
      refine ⟨⟨?_,?_⟩,hnode,rfl⟩
      · unfold spot at hs
        split at hs
        · cases hs
        · assumption
      · unfold nodeAt at hn
        split at hn
        · cases hn
        · rename_i hl
          exact Nat.le_of_not_lt hl

theorem unlink_fits (h : d.Opens p above) (ho : Own name) (hf : Fits p name)
    (hn : d.node? (above ++ [name]) = some (.file bs)) :
    d.unlink (p.join name) = .ok (d.erase (above ++ [name])) := by
  simp [unlink,h.look_fits ho hf,hn,bind,Except.bind,pure,Except.pure]

end Opens

end Disk

end BuildFarm
