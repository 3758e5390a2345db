import BuildFarm.Proofs.Job.Sound
import BuildFarm.Proofs.Store.Opening
import BuildFarm.Proofs.Store.Pending

namespace BuildFarm

namespace Job

/-- A change that brings no more than such values as `P` says, and times such as there are. -/
def Change.Made (P : Json → Prop) : Change → Prop
  | .markRunning now => now.Valid
  | .release => True
  | .conclude _ result now => (∀ v, result = some v → P v) ∧ now.Valid
  | .cancel => True

namespace Made

variable {P : Json → Prop} {j k : Job} {now : Instant}

theorem taken (h : Made P j) (hn : now.Valid) : Made P (j.taken now) := by
  refine ⟨⟨h.args,h.result⟩,h.queued,?_,h.finished⟩
  rintro t ⟨⟩
  exact hn

theorem returned (h : Made P j) : Made P j.returned := by
  refine ⟨⟨h.args,h.result⟩,h.queued,?_,h.finished⟩
  intro t ht
  cases ht

theorem ended {status : JobStatus} {result : Option Json} (h : Made P j) (hr : ∀ v, result = some v → P v) (hn : now.Valid) :
    Made P (j.ended status result now) := by
  refine ⟨⟨h.args,hr⟩,h.queued,h.started,?_⟩
  rintro t ⟨⟩
  exact hn

theorem cancel (h : Made P j) : Made P j.cancel :=
  ⟨⟨h.args,h.result⟩,h.queued,h.started,h.finished⟩

theorem changed (h : Made P j) (hc : c.Made P) (he : j.Changed c k) : Made P k := by
  cases he with
  | taken _ => exact h.taken hc
  | returned _ => exact h.returned
  | ended _ _ => exact h.ended hc.1 hc.2
  | canceled => exact h.cancel

theorem changeAll {cs : List Change} (h : Made P j) (hc : ∀ c ∈ cs, c.Made P)
    (he : j.changeAll cs = .ok k) : Made P k :=
  changeAll_induction (P := Made P) he h (fun _ _ c hm hx hi => hi.changed (hc c hm) hx)

end Made

end Job

namespace Index

def Made (P : Json → Prop) (ix : Index) : Prop :=
  ∀ id r, ix.find? id = some r → r.Made P

abbrev Legible : Index → Prop :=
  Made Json.Legible

namespace Made

variable {P : Json → Prop} {ix : Index}

theorem load (h : ix.Made P) (hj : Job.Made P j) : (ix.load j).Made P := by
  intro id r hr
  rw [find?_load] at hr
  split at hr
  · cases hr
    exact hj
  · exact h id r hr

theorem replace (h : ix.Made P) (id : JobId) (old : Job) (hn : Job.Made P new) :
    (ix.replace id old new).Made P := by
  intro i r hr
  rw [find?_replace] at hr
  split at hr
  · cases hr
    exact hn
  · exact h i r hr

end Made

end Index

namespace Store

open Disk

/-- An operation that brings no more than such values as `P` says, and times such as there are. -/
def Operation.Made (P : Json → Prop) : Operation → Prop
  | .create j => j.Made P
  | .get _ => True
  | .update _ changes => ∀ c ∈ changes, c.Made P
  | .next _ now => now.Valid

abbrev Operation.Legible : Operation → Prop :=
  Operation.Made Json.Legible

theorem Outcome.made {P : Json → Prop} {s : Store} (h : s.Outcome o r ix) (ho : o.Made P)
    (hx : s.index.Made P) : ix.Made P := by
  cases h with
  | failed e => exact hx
  | created fresh => exact hx.load ho
  | got found => exact hx
  | updated found changed => exact hx.replace _ _ ((hx _ _ found).changeAll ho changed)
  | idle => exact hx
  | claimed chosen => exact hx.replace _ _ ((hx _ _ (candidate?_some chosen).1).taken ho)

theorem after_made {P : Json → Prop} {s : Store} (hx : s.index.Made P) {run : List Step}
    (h : ∀ x ∈ run, x.operation.Made P) : (s.after run).index.Made P := by
  induction run generalizing s with
  | nil => exact hx
  | cons x run ih =>
    exact ih ((take_outcome s x).made (h x List.mem_cons_self) hx)
      (fun y hy => h y (List.mem_cons_of_mem _ hy))

/-- What loading fails with comes of one of the files. -/
theorem loadAll_error {root : Path} {entries : List (String × Node)} {ix : Index}
    (h : loadAll root ix entries = .error e) : ∃ name n, (name,n) ∈ entries ∧
      isRecordName name = true ∧ readRecord root name n = .error e := by
  induction entries generalizing ix with
  | nil => cases h
  | cons entry rest ih =>
    obtain ⟨name,n⟩ := entry
    unfold loadAll at h
    split at h
    · rename_i hname
      cases hr : readRecord root name n with
      | error f =>
        rw [hr] at h
        cases h
        exact ⟨name,n,List.mem_cons_self,hname,hr⟩
      | ok j =>
        rw [hr] at h
        obtain ⟨name',n',hm,hr'⟩ := ih h
        exact ⟨name',n',List.mem_cons_of_mem _ hm,hr'⟩
    · obtain ⟨name',n',hm,hr'⟩ := ih h
      exact ⟨name',n',List.mem_cons_of_mem _ hm,hr'⟩

theorem loadAll_ordered {root : Path} {entries : List (String × Node)} {ix out : Index}
    (h : loadAll root ix entries = .ok out) (ho : ix.pending.Pairwise (· < ·)) :
    out.pending.Pairwise (· < ·) := by
  induction entries generalizing ix with
  | nil =>
    cases h
    exact ho
  | cons e rest ih =>
    obtain ⟨name,n⟩ := e
    unfold loadAll at h
    split at h
    · obtain ⟨j,_,h⟩ := ok_of_bind h
      exact ih h (Index.load_ordered ho j)
    · exact ih h ho

/-- An id waits if it did before or if one of the files has a record of it that waits. -/
theorem loadAll_pending {root : Path} {entries : List (String × Node)} {ix out : Index}
    (h : loadAll root ix entries = .ok out) (id : JobId) : id ∈ out.pending ↔
    id ∈ ix.pending ∨ ∃ name n r, (name,n) ∈ entries ∧ isRecordName name = true ∧
      readRecord root name n = .ok r ∧ r.id = id ∧ r.status = .pending := by
  induction entries generalizing ix with
  | nil =>
    cases h
    simp
  | cons e rest ih =>
    obtain ⟨name,n⟩ := e
    unfold loadAll at h
    split at h
    · rename_i hname
      obtain ⟨j,hj,h⟩ := ok_of_bind h
      rw [ih h,Index.mem_load]
      constructor
      · rintro ((⟨rfl,hs⟩ | hid) | ⟨name',n',r,hm,hr⟩)
        · exact Or.inr ⟨name,n,j,List.mem_cons_self,hname,hj,rfl,hs⟩
        · exact Or.inl hid
        · exact Or.inr ⟨name',n',r,List.mem_cons_of_mem _ hm,hr⟩
      · rintro (hid | ⟨name',n',r,hm,hname',hr,hid,hs⟩)
        · exact Or.inl (Or.inr hid)
        · rcases List.mem_cons.mp hm with hm | hm
          · cases hm
            rw [hj] at hr
            cases hr
            exact Or.inl (Or.inl ⟨hid.symm,hs⟩)
          · exact Or.inr ⟨name',n',r,hm,hname',hr,hid,hs⟩
    · rename_i hname
      rw [ih h]
      constructor
      · rintro (hid | ⟨name',n',r,hm,hr⟩)
        · exact Or.inl hid
        · exact Or.inr ⟨name',n',r,List.mem_cons_of_mem _ hm,hr⟩
      · rintro (hid | ⟨name',n',r,hm,hname',hr⟩)
        · exact Or.inl hid
        · rcases List.mem_cons.mp hm with hm | hm
          · cases hm
            exact absurd hname' hname
          · exact Or.inr ⟨name',n',r,hm,hname',hr⟩

theorem readRecord_parsed {root : Path} {name : String} {bs : Bytes}
    (h : Job.parse (Glyph.ofBytes bs) = .ok r) : readRecord root name (.file bs) = .ok r := by
  simp only [readRecord,Node.contents,h]

theorem readRecord_error {root : Path} {name : String} {bs : Bytes}
    (h : readRecord root name (.file bs) = .error e) :
    ∃ f, Job.parse (Glyph.ofBytes bs) = .error f ∧ e = .corrupt (root.join name) f.message := by
  cases hp : Job.parse (Glyph.ofBytes bs) with
  | ok j =>
    rw [readRecord_parsed hp] at h
    cases h
  | error f =>
    simp only [readRecord,Node.contents,hp] at h
    exact ⟨f,rfl,(Except.error.inj h).symm⟩

namespace Mirrors

variable {d : Disk} {root : Path} {above : List String} {ix out : Index}

/-- Files that are named after their records are loaded with the ids of those that wait. -/
theorem exact (h : Mirrors d root above out) (hl : d.list root = .ok entries)
    (ho : loadAll root .empty entries = .ok out) : out.Exact where
  keyed := h.keyed
  ordered := loadAll_ordered ho .nil
  waiting id := by
    rw [loadAll_pending ho]
    constructor
    · rintro (hid | ⟨name,n,r,hm,hname,hread,rfl,hs⟩)
      · cases hid
      · obtain ⟨bs,rfl,hparse⟩ := readRecord_ok hread
        have hnode := node?_of_mem h.leading ((h.opens.mem_list hl).mp hm)
        obtain ⟨i,rfl,hi⟩ := h.known name _ hnode hname
        obtain ⟨r',hr'⟩ := Option.isSome_iff_exists.mp hi
        obtain ⟨bs',hbs,hb⟩ := h.kept i r' hr'
        rw [hnode] at hbs
        cases hbs
        have hf := hb.found hparse
        have hsame : i = r.id := (h.keyed i r' hr').symm.trans hf.id.symm
        exact ⟨r',hsame ▸ hr',hf.status.symm.trans hs⟩
    · rintro ⟨r,hr,hs⟩
      rcases loadAll_from ho hr with hn | ⟨name,n,hm,hname,hread,hid⟩
      · cases hn
      · exact Or.inr ⟨name,n,r,hm,hname,hread,hid,hs⟩

/-- A file that is refused bears a record that is not readable. -/
theorem refused (h : Mirrors d root above ix) (hl : d.list root = .ok entries)
    (ho : loadAll root .empty entries = .error e) : ∃ id r m, ix.find? id = some r ∧
      ¬r.Readable ∧ e = .corrupt (recordPath root id) m := by
  obtain ⟨name,n,hm,hname,hread⟩ := loadAll_error ho
  have hnode := node?_of_mem h.leading ((h.opens.mem_list hl).mp hm)
  obtain ⟨id,rfl,hid⟩ := h.known name n hnode hname
  obtain ⟨r,hr⟩ := Option.isSome_iff_exists.mp hid
  obtain ⟨bs,hbs,hb⟩ := h.kept id r hr
  rw [hnode] at hbs
  cases hbs
  obtain ⟨f,hf,rfl⟩ := readRecord_error hread
  refine ⟨id,r,f.message,hr,fun hn => ?_,rfl⟩
  obtain ⟨r',hr'⟩ := hb.parses hn
  rw [hf] at hr'
  cases hr'

/-- A record whose file is loaded again. -/
theorem loaded (h : Mirrors d root above ix) (hl : d.list root = .ok entries)
    (ho : loadAll root .empty entries = .ok out) {id : JobId} (hr : ix.find? id = some r) :
    ∃ r', out.find? id = some r' ∧ r.Found r' := by
  obtain ⟨r',hout⟩ := Option.isSome_iff_exists.mp (h.again hl ho hr)
  obtain ⟨r'',bs,hr'',_,hb,hparse⟩ := h.found hl ho hout
  rw [hr] at hr''
  cases hr''
  exact ⟨r',hout,hb.found hparse⟩

/-- Where all records are legible they are all loaded again. -/
theorem loads (h : Mirrors d root above ix) (hx : ix.Legible)
    (hl : d.list root = .ok entries) : ∃ out, loadAll root .empty entries = .ok out ∧
      ∀ id, out.find? id = (ix.find? id).map Job.settled := by
  cases ho : loadAll root .empty entries with
  | error e =>
    obtain ⟨id,r,_,hr,hn,_⟩ := h.refused hl ho
    exact absurd (Job.Legible.readable (hx id r hr)) hn
  | ok out =>
    refine ⟨out,rfl,fun id => ?_⟩
    cases hr : ix.find? id with
    | some r =>
      obtain ⟨r',hout,hf⟩ := h.loaded hl ho hr
      rw [hout,hf.same (hx id r hr),Option.map_some]
    | none =>
      cases hout : out.find? id with
      | none => rfl
      | some r' =>
        obtain ⟨r,_,hold,_⟩ := h.found hl ho hout
        rw [hr] at hold
        cases hold

end Mirrors

/-- The file of a record that could not have been read is what was written of it. -/
theorem Mirrored.written {s : Store} {root : Path} {id : JobId} (h : Mirrored s root above)
    (hr : s.find? id = some r) (hd : ¬r.Shallow) :
    s.disk.node? (above ++ [recordName id]) = some (.file (recordBytes r)) := by
  obtain ⟨bs,hnode,hbears⟩ := h.files.kept id r hr
  have hbs : bs = recordBytes r := hbears.resolve_right fun hp => hd (Job.parse_sound hp).shallow
  rw [hnode,hbs]

/-- A store is opened in the same folder again, or is refused at a record that cannot be read. -/
theorem Mirrored.reopen_cases {s : Store} {root : Path} (h : Mirrored s root above) :
    (∃ t, openAt root s.disk = (.ok t,s.disk) ∧ ∀ id r, s.find? id = some r → r.Shallow) ∨
    ∃ id r m, s.find? id = some r ∧ ¬r.Readable ∧
      openAt root s.disk = (.error (.corrupt (recordPath root id) m),s.disk) := by
  have hm := h.files
  obtain ⟨entries,hl⟩ := hm.opens.list_ok
  cases ho : loadAll root .empty entries with
  | ok out =>
    refine Or.inl ⟨_,openAt_loaded hm.opens.createFolders hl ho,fun id r hr => ?_⟩
    obtain ⟨r',_,hf⟩ := hm.loaded hl ho hr
    exact hf.shallow
  | error e =>
    obtain ⟨id,r,m,hr,hn,rfl⟩ := hm.refused hl ho
    refine Or.inr ⟨id,r,m,hr,hn,?_⟩
    simp only [openAt,hm.opens.createFolders,hl,ho]

end Store

end BuildFarm
