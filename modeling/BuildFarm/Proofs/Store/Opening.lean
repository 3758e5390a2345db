import BuildFarm.Proofs.Store.Mirror

namespace BuildFarm

namespace Store

open Disk

/-- A record was there before, or it is that of one of the files. -/
theorem loadAll_from {root : Path} {ix out : Index} {entries : List (String × Node)} {id : JobId}
    (h : loadAll root ix entries = .ok out) (hr : out.find? id = some r) :
    ix.find? id = some r ∨ ∃ name n, (name,n) ∈ entries ∧ isRecordName name = true ∧
      readRecord root name n = .ok r ∧ r.id = id := by
  induction entries generalizing ix with
  | nil =>
    cases h
    exact Or.inl hr
  | cons e rest ih =>
    obtain ⟨name,n⟩ := e
    unfold loadAll at h
    split at h
    · rename_i hname
      obtain ⟨j,hj,h⟩ := ok_of_bind h
      rcases ih h with hr | ⟨name',n',hm,hname',hr,hid⟩
      · rw [Index.find?_load] at hr
        split at hr
        · rename_i hid
          cases hr
          exact Or.inr ⟨name,n,List.mem_cons_self,hname,hj,hid⟩
        · exact Or.inl hr
      · exact Or.inr ⟨name',n',List.mem_cons_of_mem _ hm,hname',hr,hid⟩
    · rcases ih h with hr | ⟨name',n',hm,hname',hr,hid⟩
      · exact Or.inl hr
      · exact Or.inr ⟨name',n',List.mem_cons_of_mem _ hm,hname',hr,hid⟩

/-- No record is lost again, and every file that has the name of a record gives one. -/
theorem loadAll_all {root : Path} {ix out : Index} {entries : List (String × Node)}
    (h : loadAll root ix entries = .ok out) :
    (∀ id, (ix.find? id).isSome = true → (out.find? id).isSome = true) ∧
    ∀ name n, (name,n) ∈ entries → isRecordName name = true →
      ∃ r, readRecord root name n = .ok r ∧ (out.find? r.id).isSome = true := by
  induction entries generalizing ix with
  | nil =>
    cases h
    exact ⟨fun _ hid => hid,nofun⟩
  | cons e rest ih =>
    obtain ⟨name,n⟩ := e
    unfold loadAll at h
    split at h
    · obtain ⟨j,hj,h⟩ := ok_of_bind h
      obtain ⟨hstay,hread⟩ := ih h
      refine ⟨?_,?_⟩
      · intro id hid
        apply hstay
        rw [Index.find?_load]
        split
        · rfl
        · exact hid
      · intro name' n' hm hname'
        rcases List.mem_cons.mp hm with hm | hm
        · cases hm
          exact ⟨j,hj,hstay _ (by simp [Index.find?_load])⟩
        · exact hread name' n' hm hname'
    · rename_i hname
      obtain ⟨hstay,hread⟩ := ih h
      refine ⟨hstay,?_⟩
      intro name' n' hm hname'
      rcases List.mem_cons.mp hm with hm | hm
      · cases hm
        exact absurd hname' hname
      · exact hread name' n' hm hname'

theorem readRecord_ok {root : Path} (h : readRecord root name n = .ok r) :
    ∃ bs, n = .file bs ∧ Job.parse (Glyph.ofBytes bs) = .ok r := by
  cases n with
  | folder => cases h
  | file bs =>
    refine ⟨bs,rfl,?_⟩
    simp only [readRecord,Node.contents] at h
    split at h
    · rename_i hj
      cases h
      exact hj
    · cases h

theorem openAt_cases {root : Path} {disk e : Disk} (h : openAt root disk = (.ok s,e)) :
    e = (disk.createFolders root).2 ∧ ∃ entries, e.list root = .ok entries ∧ ∃ ix,
      loadAll root .empty entries = .ok ix ∧ s = ⟨e,some root,ix,[],[]⟩ := by
  unfold openAt at h
  split at h
  · cases h
  · rename_i hc
    split at h
    · cases h
    · rename_i entries hl
      split at h
      · cases h
      · rename_i ix hix
        cases h
        exact ⟨by rw [hc],entries,hl,ix,hix,rfl⟩

theorem openAt_loaded {root : Path} {disk e : Disk} (hc : disk.createFolders root = (.ok (),e))
    (hl : e.list root = .ok entries) (hx : loadAll root .empty entries = .ok ix) :
    openAt root disk = (.ok ⟨e,some root,ix,[],[]⟩,e) := by
  simp only [openAt,hc,hl,hx]

namespace Mirrors

variable {d : Disk} {root : Path} {above : List String} {ix out : Index}

/-- A record that was loaded is read from the file of a record that was known. -/
theorem found (h : Mirrors d root above ix) (hl : d.list root = .ok entries)
    (ho : loadAll root .empty entries = .ok out) {id : JobId} (hr : out.find? id = some r') :
    ∃ r bs, ix.find? id = some r ∧ d.node? (above ++ [recordName id]) = some (.file bs) ∧
      Bears bs r ∧ Job.parse (Glyph.ofBytes bs) = .ok r' := by
  rcases loadAll_from ho hr with hn | ⟨name,n,hm,hname,hread,hid⟩
  · cases hn
  · obtain ⟨bs,rfl,hparse⟩ := readRecord_ok hread
    have hnode := node?_of_mem h.leading ((h.opens.mem_list hl).mp hm)
    obtain ⟨i,rfl,hi⟩ := h.known name _ hnode hname
    obtain ⟨r,hold⟩ := Option.isSome_iff_exists.mp hi
    obtain ⟨bs',hbs,hb⟩ := h.kept i r hold
    rw [hnode] at hbs
    cases hbs
    have hsame : i = id :=
      (h.keyed i r hold).symm.trans ((hb.found hparse).id.symm.trans hid)
    subst hsame
    exact ⟨r,bs,hold,hnode,hb,hparse⟩

theorem again (h : Mirrors d root above ix) (hl : d.list root = .ok entries)
    (ho : loadAll root .empty entries = .ok out) {id : JobId} (hr : ix.find? id = some r) :
    (out.find? id).isSome = true := by
  obtain ⟨bs,hbs,hb⟩ := h.kept id r hr
  have hm := (h.opens.mem_list hl).mpr (mem_of_node? (ne_nil _) hbs)
  obtain ⟨r',hread,hout⟩ := (loadAll_all ho).2 _ _ hm (isRecordName_recordName id)
  obtain ⟨bs',he,hparse⟩ := readRecord_ok hread
  cases he
  have hid : r'.id = id := (hb.found hparse).id.trans (h.keyed id r hr)
  exact hid ▸ hout

theorem reloaded (h : Mirrors d root above ix) (hl : d.list root = .ok entries)
    (ho : loadAll root .empty entries = .ok out) : Mirrors d root above out where
  leading := h.leading
  opens := h.opens
  keyed id r hr := by
    obtain ⟨r',bs,hold,_,hb,hparse⟩ := h.found hl ho hr
    exact (hb.found hparse).id.trans (h.keyed id r' hold)
  kept id r hr := by
    obtain ⟨_,bs,_,hnode,_,hparse⟩ := h.found hl ho hr
    exact ⟨bs,hnode,Or.inr hparse⟩
  known := by
    intro name n hnode hname
    obtain ⟨id,rfl,hid⟩ := h.known name n hnode hname
    obtain ⟨r,hr⟩ := Option.isSome_iff_exists.mp hid
    exact ⟨id,rfl,h.again hl ho hr⟩

/-- What every record has in common with the one that it is read back as stays the same. -/
theorem seen (h : Mirrors d root above ix) (hl : d.list root = .ok entries)
    (ho : loadAll root .empty entries = .ok out) {part : Job → α}
    (hp : ∀ j r : Job, j.Found r → part r = part j) (id : JobId) :
    (out.find? id).map part = (ix.find? id).map part := by
  cases hr : out.find? id with
  | some r' =>
    obtain ⟨r,bs,hr,_,hb,hparse⟩ := h.found hl ho hr
    rw [hr,Option.map_some,Option.map_some,hp r r' (hb.found hparse)]
  | none =>
    cases hix : ix.find? id with
    | none => rfl
    | some r =>
      have hs := h.again hl ho hix
      rw [hr] at hs
      cases hs

end Mirrors

/-- Opened in the same folder again, a store knows the same jobs, each where it stood. -/
theorem Mirrored.reopened {s t : Store} {root : Path} (h : Mirrored s root above)
    (ho : openAt root s.disk = (.ok t,e)) :
    Mirrored t root above ∧ t.faults = [] ∧
      ∀ id, (t.find? id).map Job.status = (s.find? id).map Job.status := by
  obtain ⟨rfl,entries,hl,ix,hix,rfl⟩ := openAt_cases ho
  rw [h.files.opens.createFolders] at hl ⊢
  exact ⟨⟨rfl,h.files.reloaded hl hix⟩,rfl,h.files.seen hl hix (fun _ _ hj => hj.status)⟩

/-- It knows them with all that they depend on. -/
theorem Mirrored.reopened_dependencies {s t : Store} {root : Path} (h : Mirrored s root above)
    (ho : openAt root s.disk = (.ok t,e)) (id : JobId) :
    (t.find? id).map Job.dependencies = (s.find? id).map Job.dependencies := by
  obtain ⟨rfl,entries,hl,ix,hix,rfl⟩ := openAt_cases ho
  rw [h.files.opens.createFolders] at hl
  exact h.files.seen hl hix (fun _ _ hj => hj.dependencies) id

/-- Each record file among the entries of a folder is named after the record in it. -/
def Named (root : Path) (entries : List (String × Node)) : Prop :=
  ∀ name n r, (name,n) ∈ entries → isRecordName name = true → readRecord root name n = .ok r →
    name = recordName r.id

/-- The records of a store that is opened are in the files they are named after. -/
theorem mirrored_opened {disk e : Disk} {root : Path} {above : List String}
    (ho : openAt root disk = (.ok s,e)) (hl : e.list root = .ok entries)
    (hopens : e.Opens root above) (hlead : e.nodes.Leading (Inside above))
    (hnamed : Named root entries) : Mirrored s root above := by
  obtain ⟨_,entries',hl',ix,hix,rfl⟩ := openAt_cases ho
  rw [hl] at hl'
  cases hl'
  have from_file {id : JobId} {r : Job} (hr : ix.find? id = some r) : ∃ n,
      (recordName id,n) ∈ entries ∧ readRecord root (recordName id) n = .ok r ∧ r.id = id := by
    rcases loadAll_from hix hr with hn | ⟨name,n,hm,hname,hread,rfl⟩
    · cases hn
    · obtain rfl := hnamed name n r hm hname hread
      exact ⟨n,hm,hread,rfl⟩
  constructor
  · rfl
  refine ⟨hlead,hopens,?keyed,?kept,?known⟩
  · intro id r hr
    obtain ⟨_,_,_,hid⟩ := from_file hr
    exact hid
  · intro id r hr
    obtain ⟨n,hm,hread,_⟩ := from_file hr
    obtain ⟨bs,rfl,hparse⟩ := readRecord_ok hread
    exact ⟨bs,node?_of_mem hlead ((hopens.mem_list hl).mp hm),Or.inr hparse⟩
  · intro name n hnode hname
    have hm := (hopens.mem_list hl).mpr (mem_of_node? (ne_nil name) hnode)
    obtain ⟨r,hread,hr⟩ := (loadAll_all hix).2 name n hm hname
    exact ⟨r.id,hnamed name n r hm hname hread,hr⟩

/-- A store that is opened in an empty folder has no records. -/
theorem mirrored_empty {disk e : Disk} {root : Path} (ho : openAt root disk = (.ok s,e))
    (he : e.list root = .ok []) :
    s.index = .empty ∧ s.faults = [] ∧ ∃ above, Mirrored s root above := by
  obtain ⟨above,hopens⟩ := opens_of_list he
  have hlead : e.nodes.Leading (Inside above) := by
    apply Table.leading_of_none
    rintro _ n hm ⟨name,rfl⟩
    cases (hopens.mem_list he).mpr hm
  have hm := mirrored_opened ho he hopens hlead (fun _ _ _ hm => absurd hm List.not_mem_nil)
  obtain ⟨_,entries,hl,ix,hix,rfl⟩ := openAt_cases ho
  rw [he] at hl
  cases hl
  cases hix
  exact ⟨rfl,rfl,above,hm⟩

end Store

end BuildFarm
