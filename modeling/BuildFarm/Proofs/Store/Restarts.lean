import BuildFarm.Proofs.Store.Twins

namespace BuildFarm

namespace Job

theorem Made.settled {P : Json → Prop} {j : Job} (h : Made P j) : Made P j.settled := by
  obtain ⟨_,_,_,_,_,_,result,_,_,_⟩ := j
  refine ⟨⟨h.args,fun v hv => h.result v ?_⟩,h.queued,h.started,h.finished⟩
  cases result with
  | none => cases hv
  | some w => cases w <;> first | exact hv | cases hv

end Job

namespace Store

open Disk

/-- All that a restart can rely on: the records are legible, each is in its file, and the ids
beside them are of those that wait. -/
structure Durable (s : Store) (root : Path) (above : List String) : Prop where
  mirrored : Mirrored s root above
  exact : s.index.Exact
  legible : s.index.Legible
  faultless : s.faults = []

/-- A folder that bears legible records can be opened again, and nothing is written by that. -/
theorem Mirrors.opened {d : Disk} {ix : Index} {root : Path} {above : List String}
    (h : Mirrors d root above ix) (hx : ix.Legible) :
    ∃ out, openAt root d = (.ok ⟨d,some root,out,[],[]⟩,d) ∧
      Durable ⟨d,some root,out,[],[]⟩ root above ∧
      ∀ id, out.find? id = (ix.find? id).map Job.settled := by
  obtain ⟨entries,hl⟩ := h.opens.list_ok
  obtain ⟨out,ho,hfind⟩ := h.loads hx hl
  have hm := h.reloaded hl ho
  refine ⟨out,openAt_loaded h.opens.createFolders hl ho,⟨⟨rfl,hm⟩,hm.exact hl ho,?_,rfl⟩,hfind⟩
  intro id r hr
  have hid := hfind id
  rw [hr] at hid
  obtain ⟨r',hr',rfl⟩ := Option.map_eq_some_iff.mp hid.symm
  exact (hx id r' hr').settled

namespace Durable

variable {s t : Store} {root : Path} {above : List String}

theorem after (h : Durable s root above) {run : List Step}
    (hr : ∀ x ∈ run, x.operation.Legible) : Durable (s.after run) root above where
  mirrored := (mirrored_lasting root above).after h.mirrored run
  exact := exact_lasting.after h.exact run
  legible := after_made h.legible hr
  faultless := (after_follows h.faultless run).faultless h.faultless

/-- Opened again, the store is the same but for its records, which are those that were read back. -/
theorem reopened (h : Durable s root above) : ∃ t, openAt root s.disk = (.ok t,s.disk) ∧
    (∀ id, t.find? id = (s.find? id).map Job.settled) ∧ t.index.pending = s.index.pending ∧
    t = ⟨s.disk,some root,t.index,[],[]⟩ := by
  obtain ⟨ix,hopened,hx,hfind⟩ := h.mirrored.files.opened h.legible
  have hpending : ix.pending = s.index.pending := by
    apply h.exact.pending_eq hx.exact
    intro id
    have hid : ix.find? id = (s.index.find? id).map Job.settled := hfind id
    rw [hid,Option.map_map]
    rfl
  exact ⟨_,hopened,hfind,hpending,rfl⟩

/-- Nobody can tell the store that was opened again from the one that goes on. -/
theorem reopened_twin (h : Durable s root above) (ht : t = ⟨s.disk,some root,t.index,[],[]⟩)
    (hfind : ∀ id, t.find? id = (s.find? id).map Job.settled)
    (hpending : t.index.pending = s.index.pending) : Twin { s with failures := [] } t where
  same := by
    rw [ht,h.mirrored.home,h.faultless]
  index := by
    refine ⟨hpending,fun id => ?_⟩
    have hid : t.index.find? id = (s.index.find? id).map Job.settled := hfind id
    rw [hid]
    cases s.index.find? id with
    | none => rfl
    | some r => exact congrArg some r.settled_settled

end Durable

/-- Failures that were planned before are forgotten at the next step. -/
theorem answers_unplanned (s : Store) (run : List Step) :
    ({ s with failures := [] } : Store).answers run = s.answers run := by
  cases run <;> rfl

/-- A store that was opened in a folder whose record files are named after the records in them. -/
theorem durable_opened {disk folder : Disk} {root : Path} (ordered : disk.Ordered)
    (opened : openAt root disk = (.ok s,folder)) (listed : folder.list root = .ok entries)
    (named : Named root entries) (plain : ∀ id r, s.find? id = some r → r.Plain) :
    ∃ above, Durable s root above := by
  obtain ⟨above,hopens⟩ := opens_of_list listed
  obtain ⟨hfolder,entries',hl,ix,hix,rfl⟩ := openAt_cases opened
  have hordered : folder.Ordered := hfolder ▸ ordered.createFolders root
  have hm := mirrored_opened opened listed hopens (hordered.leading _) named
  refine ⟨above,hm,hm.files.exact hl hix,?_,rfl⟩
  intro id r hr
  rcases loadAll_from hix hr with hn | ⟨name,n,_,_,hread,_⟩
  · cases hn
  · obtain ⟨bs,_,hparse⟩ := readRecord_ok hread
    exact (Job.parse_sound hparse).proper.legible (plain id r hr)

/-- After any run, whichever of its writes failed, the folder can be opened again. The store that
is opened has the same records, as they are read back, and the same ids wait; so it answers
everything to come as if it had gone on. -/
theorem restart_transparent {disk folder : Disk} {root : Path} {s : Store}
    {entries : List (String × Node)} (ordered : disk.Ordered)
    (opened : openAt root disk = (.ok s,folder)) (listed : folder.list root = .ok entries)
    (named : Named root entries) (plain : ∀ id r, s.find? id = some r → r.Plain)
    {run : List Step} (legible : ∀ x ∈ run, x.operation.Legible) :
    ∃ t, openAt root (s.after run).disk = (.ok t,(s.after run).disk) ∧
      (∀ id, t.find? id = ((s.after run).find? id).map Job.settled) ∧
      t.index.pending = (s.after run).index.pending ∧
      ∀ more, (t.answers more).map (Except.map Answer.settled) =
        ((s.after run).answers more).map (Except.map Answer.settled) := by
  obtain ⟨above,hs⟩ := durable_opened ordered opened listed named plain
  have hd := hs.after legible
  obtain ⟨t,ht,hfind,hpending,hsame⟩ := hd.reopened
  refine ⟨t,ht,hfind,hpending,fun more => ?_⟩
  rw [answers_twin (hd.reopened_twin hsame hfind hpending) more,answers_unplanned]

namespace Sample

def first : Job :=
  .make ⟨.ofNat 1⟩ ⟨"build","x86"⟩ (.array [.int 1]) [] .epoch

/-- A folder with one record in it. -/
def shelf : Disk :=
  ⟨[(["jobs"],.folder),(["jobs",recordName first.id],.file (recordBytes first))]⟩

def shelved : Store :=
  ⟨shelf,some "/jobs",Index.empty.load first,[],[]⟩

def conclusion : Operation :=
  .update first.id [.conclude .finished (some .null) .epoch]

/-- The job is claimed and then concluded with null, once the write of that has failed. -/
def concluded : List Step :=
  [⟨.next ⟨["build"],"x86"⟩ .epoch,none⟩,⟨conclusion,some ⟨none,.notFolder⟩⟩,⟨conclusion,none⟩]

theorem first_legible : first.Legible :=
  ⟨⟨⟨⟨by decide,by decide⟩,rfl⟩,nofun⟩,Instant.epoch_valid,nofun,nofun⟩

theorem shelf_listed : shelf.list "/jobs" = .ok [(recordName first.id,.file (recordBytes first))] :=
  rfl

theorem first_read : readRecord "/jobs" (recordName first.id) (.file (recordBytes first)) =
    .ok first :=
  readRecord_parsed (Job.parse_again first_legible)

theorem shelf_folder : shelf.createFolders "/jobs" = (.ok (),shelf) :=
  rfl

theorem shelf_loaded : loadAll "/jobs" .empty
    [(recordName first.id,.file (recordBytes first))] = .ok (Index.empty.load first) := by
  rw [loadAll,if_pos (isRecordName_recordName _),first_read]
  rfl

theorem shelf_opened : openAt "/jobs" shelf = (.ok shelved,shelf) :=
  openAt_loaded shelf_folder shelf_listed shelf_loaded

theorem shelf_named : Named "/jobs" [(recordName first.id,.file (recordBytes first))] := by
  intro name n r hm _ hr
  cases List.mem_singleton.mp hm
  rw [first_read] at hr
  cases hr
  rfl

theorem shelf_ordered : shelf.Ordered := by
  refine List.pairwise_pair.mpr ?_
  decide +kernel

theorem shelved_plain (id : JobId) (r : Job) (h : shelved.find? id = some r) : r.Plain := by
  have hf : (Index.empty.load first).find? id = some r := h
  rw [Index.find?_load] at hf
  split at hf
  · cases hf
    exact ⟨first_legible.args.1,nofun⟩
  · cases hf

theorem concluded_legible : ∀ x ∈ concluded, x.operation.Legible := by
  have hconclusion : conclusion.Legible := by
    intro c hc
    cases List.mem_singleton.mp hc
    refine ⟨?_,Instant.epoch_valid⟩
    rintro v ⟨⟩
    exact ⟨⟨by decide,by decide⟩,rfl⟩
  simp only [concluded,List.forall_mem_cons,List.not_mem_nil,false_implies,implies_true,and_true]
  exact ⟨Instant.epoch_valid,hconclusion,hconclusion⟩

end Sample

/-- A null result is lost over a restart, and no more than that. -/
theorem restart_transparent_shelved : ∃ t r, openAt "/jobs"
      (Sample.shelved.after Sample.concluded).disk =
        (.ok t,(Sample.shelved.after Sample.concluded).disk) ∧
    t.find? Sample.first.id = some r ∧ r.status = .finished ∧ r.result.isNone = true := by
  obtain ⟨t,ht,hfind,_⟩ := restart_transparent Sample.shelf_ordered Sample.shelf_opened
    Sample.shelf_listed Sample.shelf_named Sample.shelved_plain Sample.concluded_legible
  have hr : ((Sample.shelved.after Sample.concluded).find? Sample.first.id).map
      (fun j => (j.status,j.settled.result.isNone)) = some (.finished,true) := by
    decide +kernel
  obtain ⟨j,hj,he⟩ := Option.map_eq_some_iff.mp hr
  refine ⟨t,j.settled,ht,by rw [hfind,hj,Option.map_some],?_,?_⟩
  · exact congrArg Prod.fst he
  · exact congrArg Prod.snd he

end Store

end BuildFarm
