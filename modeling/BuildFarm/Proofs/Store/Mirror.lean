import BuildFarm.Proofs.Disk
import BuildFarm.Proofs.Job.Sound
import BuildFarm.Proofs.Store.Run

namespace BuildFarm

namespace Store

open Disk

def recordName (id : JobId) : String :=
  s!"{id.text}.json"

def tempName (id : JobId) : String :=
  s!".{id.text}.json.tmp"

theorem recordName_toList (id : JobId) :
    (recordName id).toList = id.uuid.render ++ ['.','j','s','o','n'] := by
  have h : recordName id = id.text ++ ".json" := by
    simp [recordName,toString]
  have ht : id.text.toList = id.uuid.render := String.toList_ofList
  rw [h,String.toList_append,ht]
  rfl

theorem tempName_toList (id : JobId) :
    (tempName id).toList = '.' :: id.uuid.render ++ ['.','j','s','o','n','.','t','m','p'] := by
  have h : tempName id = "." ++ id.text ++ ".json.tmp" := by
    simp [tempName,toString]
  have ht : id.text.toList = id.uuid.render := String.toList_ofList
  rw [h,String.toList_append,String.toList_append,ht]
  rfl

theorem own_recordName (id : JobId) : Own (recordName id) := by
  refine own_of_long ?_ ?_
  · rw [recordName_toList,List.length_append,Uuid.render_length]
    decide
  · rw [recordName_toList,List.mem_append]
    rintro (h | h)
    · exact Uuid.slash_render _ h
    · exact absurd h (by decide)

theorem own_tempName (id : JobId) : Own (tempName id) := by
  refine own_of_long ?_ ?_
  · simp [tempName_toList,Uuid.render_length]
  · rw [tempName_toList,List.cons_append,List.mem_cons,List.mem_append]
    rintro (h | h | h)
    · exact absurd h (by decide)
    · exact Uuid.slash_render _ h
    · exact absurd h (by decide)

theorem isRecordName_recordName (id : JobId) : isRecordName (recordName id) = true := by
  obtain ⟨c,cs,hc⟩ := List.exists_cons_of_length_pos
    (Nat.lt_of_lt_of_eq (by decide : 0 < 36) (Uuid.render_length id.uuid).symm)
  have hp : c ≠ '.' := by
    rintro rfl
    exact Uuid.point_render id.uuid (hc ▸ List.mem_cons_self)
  have hs : ".json".toList.isSuffixOf (recordName id).toList = true := by
    rw [recordName_toList]
    exact List.isSuffixOf_iff_suffix.mpr ⟨_,rfl⟩
  rw [isRecordName,hs,recordName_toList,hc]
  simp [hp]

theorem isRecordName_tempName (id : JobId) : isRecordName (tempName id) = false := by
  rw [isRecordName,tempName_toList]
  rfl

theorem recordName_injective {i j : JobId} (h : recordName i = recordName j) : i = j := by
  have ht := congrArg String.toList h
  rw [recordName_toList,recordName_toList] at ht
  have hr := List.append_cancel_right ht
  have hu : i.uuid = j.uuid := Uuid.text_injective (congrArg String.ofList hr)
  cases i
  cases j
  exact congrArg JobId.mk hu

/-- The bytes are the written form of the record, or the record was read from them. -/
def Bears (bs : Bytes) (r : Job) : Prop :=
  bs = recordBytes r ∨ Job.parse (Glyph.ofBytes bs) = .ok r

/-- What the bytes are read back as, if they are a record at all. -/
theorem Bears.found (h : Bears bs r) (hp : Job.parse (Glyph.ofBytes bs) = .ok r') :
    r.Found r' := by
  rcases h with h | h
  · rw [h] at hp
    exact Job.parse_written hp
  · have hr := Except.ok.inj (h.symm.trans hp)
    have hs := Job.parse_sound h
    subst hr
    exact ⟨rfl,rfl,rfl,hs.shallow,fun _ => hs.settled.symm⟩

theorem Bears.parses (h : Bears bs r) (hr : r.Readable) :
    ∃ r', Job.parse (Glyph.ofBytes bs) = .ok r' := by
  rcases h with h | h
  · rw [h]
    exact Job.parse_readable hr
  · exact ⟨r,h⟩

/-- The files of a folder and the records in memory. -/
structure Mirrors (d : Disk) (root : Path) (above : List String) (ix : Index) : Prop where
  leading : d.nodes.Leading (Inside above)
  opens : d.Opens root above
  keyed : ∀ id r, ix.find? id = some r → r.id = id
  kept : ∀ id r, ix.find? id = some r →
    ∃ bs, d.node? (above ++ [recordName id]) = some (.file bs) ∧ Bears bs r
  known : ∀ name n, d.node? (above ++ [name]) = some n → isRecordName name = true →
    ∃ id, name = recordName id ∧ (ix.find? id).isSome = true

namespace Mirrors

variable {d e : Disk} {root : Path} {above : List String} {ix : Index}

/-- The files that have no names of records do not count. -/
theorem aside (h : Mirrors d root above ix) (hl : e.nodes.Leading (Inside above))
    (hf : FoldersStay d e)
    (hn : ∀ name, isRecordName name = true →
      e.node? (above ++ [name]) = d.node? (above ++ [name])) :
    Mirrors e root above ix where
  leading := hl
  opens := h.opens.stays hf
  keyed := h.keyed
  kept := by
    intro id r hr
    rw [hn _ (isRecordName_recordName id)]
    exact h.kept id r hr
  known := by
    intro name n hnode hname
    rw [hn name hname] at hnode
    exact h.known name n hnode hname

theorem ne_tempName {name : String} (h : isRecordName name = true) (id : JobId) :
    tempName id ≠ name := by
  rintro rfl
  rw [isRecordName_tempName] at h
  cases h

/-- A temporary file is written. -/
theorem save (h : Mirrors d root above ix) (id : JobId)
    (hs : d.save (tempPath root id) bs = .ok e) :
    Mirrors e root above ix ∧ e.node? (above ++ [tempName id]) = some (.file bs) := by
  obtain ⟨hfolder,rfl⟩ := h.opens.save_join (own_tempName id) hs
  refine ⟨h.aside (leading_put h.leading _ _) (foldersStay_put (ne_nil _) hfolder _) ?_,?_⟩
  · intro name hname
    rw [node?_put _ _ (ne_nil _),if_neg (ne_name (ne_tempName hname id))]
  · rw [node?_put _ _ (ne_nil _),if_pos rfl]

/-- A record's file has the content that its temporary file had. -/
def committed (d : Disk) (above : List String) (id : JobId) (bs : Bytes) : Disk :=
  (d.erase (above ++ [tempName id])).put (above ++ [recordName id]) (.file bs)

theorem node?_committed (d : Disk) (id : JobId) (bs : Bytes) {name : String}
    (h : isRecordName name = true) :
    (committed d above id bs).node? (above ++ [name]) =
      if recordName id = name then some (.file bs) else d.node? (above ++ [name]) := by
  unfold committed
  rw [node?_put _ _ (ne_nil _)]
  by_cases he : recordName id = name
  · rw [if_pos he,if_pos (he ▸ rfl)]
  · rw [if_neg he,if_neg (ne_name he),node?_erase _ (ne_name (ne_tempName h id))]

/-- A temporary file with a record in it takes the place of the record's file. -/
theorem rename (h : Mirrors d root above ix)
    (ht : d.node? (above ++ [tempName j.id]) = some (.file bs)) (hb : Bears bs j)
    (hr : d.rename (tempPath root j.id) (recordPath root j.id) = .ok e) {next : Index}
    (hnext : ∀ i, next.find? i = if j.id = i then some j else ix.find? i) :
    Mirrors e root above next := by
  obtain ⟨bs',hbs,hfolder,he⟩ := h.opens.rename_join (own_tempName j.id) (own_recordName j.id) hr
  obtain rfl : bs = bs' := by simpa [ht] using hbs
  obtain rfl : e = committed d above j.id bs := he
  have hgone : d.node? (above ++ [tempName j.id]) ≠ some .folder := by simp [ht]
  refine ⟨leading_put (leading_erase h.leading _) _ _,?_,?_,?_,?_⟩
  · exact h.opens.stays ((foldersStay_erase hgone).trans (foldersStay_put (ne_nil _) hfolder _))
  · intro i r hi
    rw [hnext i] at hi
    split at hi
    · rename_i he
      cases hi
      exact he
    · exact h.keyed i r hi
  · intro i r hi
    rw [hnext i] at hi
    rw [node?_committed d j.id bs (isRecordName_recordName i)]
    split at hi
    · rename_i he
      cases hi
      exact ⟨bs,if_pos (he ▸ rfl),hb⟩
    · rename_i he
      rw [if_neg (fun hn => he (recordName_injective hn))]
      exact h.kept i r hi
  · intro name n hn hname
    rw [node?_committed d j.id bs hname] at hn
    split at hn
    · rename_i he
      exact ⟨j.id,he.symm,by simp [hnext]⟩
    · obtain ⟨id,rfl,hid⟩ := h.known name n hn hname
      refine ⟨id,rfl,?_⟩
      rw [hnext]
      split
      · rfl
      · exact hid

end Mirrors

/-- The records of the store are all in the files of its folder. -/
structure Mirrored (s : Store) (root : Path) (above : List String) : Prop where
  home : s.root = some root
  files : Mirrors s.disk root above s.index

/-- A write has failed, or it is time that the record is put into the index. -/
inductive Written (before : Index) (j : Job) (root : Path) (above : List String) :
    Except StoreError Unit × Store → Prop
  | failed (h : Mirrored t root above) : Written before j root above (.error e,t)
  | done (h : ∀ ix : Index, (∀ i, ix.find? i = if j.id = i then some j else before.find? i) →
      Mirrored { t with index := ix } root above) : Written before j root above (.ok (),t)

namespace Mirrored

variable {s t : Store} {root : Path} {above : List String}

/-- A write that fails leaves at most a temporary file behind. -/
theorem failWrite (h : Mirrored s root above) (j : Job) (f : WriteFailure) :
    Written s.index j root above (s.failWrite root j f) := by
  refine .failed ⟨h.home,?_⟩
  cases f.left with
  | none => exact h.files
  | some bs =>
    dsimp only
    cases hs : s.disk.save (tempPath root j.id) bs with
    | error e => exact h.files
    | ok d => exact (h.files.save j.id hs).1

theorem writeRecord (h : Mirrored s root above) (j : Job) :
    Written s.index j root above (s.writeRecord root j) := by
  unfold Store.writeRecord
  dsimp only
  cases hs : s.disk.save (tempPath root j.id) (recordBytes j) with
  | error e => exact .failed h
  | ok d =>
    obtain ⟨hd,ht⟩ := h.files.save j.id hs
    dsimp only
    cases hr : d.rename (tempPath root j.id) (recordPath root j.id) with
    | error e => exact .failed ⟨h.home,hd⟩
    | ok e =>
      refine .done ?_
      intro ix hix
      exact ⟨h.home,hd.rename ht (Or.inl rfl) hr hix⟩

theorem persist (h : Mirrored s root above) (j : Job) :
    Written s.index j root above (s.persist j) := by
  have hrest (fs : List (Option WriteFailure)) : Mirrored { s with failures := fs } root above :=
    ⟨h.home,h.files⟩
  unfold Store.persist
  split
  · rename_i hn
    rw [h.home] at hn
    cases hn
  · rename_i root' hroot
    rw [h.home] at hroot
    cases hroot
    split
    · exact h.writeRecord j
    · rename_i fs _
      exact (hrest fs).writeRecord j
    · rename_i f fs _
      exact (hrest fs).failWrite j f

theorem entered (h : Mirrored s root above) {next : Index → Index}
    (hn : ∀ i, (next s.index).find? i = if j.id = i then some j else s.find? i) :
    Mirrored (s.entered j a next).2 root above := by
  have hw := h.persist j
  obtain ⟨e,t,hp,he⟩ | ⟨t,hp,he⟩ := entered_cases s j a next <;> rw [he] <;> rw [hp] at hw
  · cases hw with
    | failed ht => exact ht
  · cases hw with
    | done ht => exact ht _ hn

theorem guarded {run : Store → Except StoreError α × Store} (h : Mirrored s root above)
    (hr : ∀ t, Mirrored t root above → Mirrored (run t).2 root above) :
    Mirrored (s.guarded call run).2 root above :=
  guarded_kept (P := fun s => Mirrored s root above) (fun _ _ h => ⟨h.home,h.files⟩) h hr

theorem create (h : Mirrored s root above) (j : Job) : Mirrored (s.create j).2 root above := by
  refine h.guarded ?_
  intro s h
  rw [createRecord_eq]
  split
  · exact h
  · exact h.entered (Index.find?_load _ j)

theorem get (h : Mirrored s root above) (id : JobId) : Mirrored (s.get id).2 root above := by
  refine h.guarded ?_
  intro s h
  unfold getRecord
  split <;> exact h

theorem update (h : Mirrored s root above) (id : JobId) (changes : List Job.Change) :
    Mirrored (s.update id changes).2 root above := by
  refine h.guarded ?_
  intro s h
  rw [updateRecord_eq]
  split
  · exact h
  · rename_i old hold
    split
    · exact h
    · rename_i new hc
      have hid : new.id = id := (Job.changeAll_id hc).trans (h.files.keyed id old hold)
      exact h.entered (Index.find?_replace_own s.index old hid)

theorem next (h : Mirrored s root above) (f : ClaimFilter) (now : Instant) :
    Mirrored (s.next f now).2 root above := by
  refine h.guarded ?_
  intro s h
  rw [claim_eq]
  split
  · exact h
  · rename_i id old hc
    have hid : (old.taken now).id = id := h.files.keyed id old (candidate?_some hc).1
    exact h.entered (Index.find?_replace_own s.index old hid)

end Mirrored

theorem mirrored_lasting (root : Path) (above : List String) :
    Lasting (fun s => Mirrored s root above) where
  create _ j h := h.create j
  get _ id h := h.get id
  update _ id changes h := h.update id changes
  next _ f now h := h.next f now
  plan _ _ _ h := ⟨h.home,h.files⟩

end Store

end BuildFarm
