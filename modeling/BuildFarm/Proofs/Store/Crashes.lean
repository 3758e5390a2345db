import BuildFarm.Proofs.Store.Restarts

namespace BuildFarm

namespace Store

open Disk

/-- The record that an operation is going to write, if it comes to that. -/
def writes? (s : Store) : Operation → Option Job
  | .create j => if (s.find? j.id).isSome then none else some j
  | .get _ => none
  | .update id changes => (s.find? id).bind (fun old => (old.changeAll changes).toOption)
  | .next f now => (s.candidate? f).map (fun c => c.2.taken now)

/-- The disks that are left where the process stops while a record is written: the temporary file
has not been touched, has some of the record in it or all, or has taken the place of the record's
file. -/
inductive Stopped (s : Store) (root : Path) (j : Job) : Disk → Prop
  | untouched : Stopped s root j s.disk
  | begun {bs : Bytes} (part : bs <+: recordBytes j)
    (saved : s.disk.save (tempPath root j.id) bs = .ok d) : Stopped s root j d
  | renamed (saved : s.disk.save (tempPath root j.id) (recordBytes j) = .ok d)
    (moved : d.rename (tempPath root j.id) (recordPath root j.id) = .ok e) : Stopped s root j e

/-- The stores that come of one by operations, restarts and crashes in any order. -/
inductive Reached (root : Path) (s : Store) : Store → Prop
  | start : Reached root s s
  | step (h : Reached root s t) (legible : x.operation.Legible) : Reached root s (t.take x).2
  | restart (h : Reached root s t) (opened : openAt root t.disk = (.ok u,e)) : Reached root s u
  | crash (h : Reached root s t) (legible : o.Legible) (writes : t.writes? o = some j)
    (stopped : t.Stopped root j d) (opened : openAt root d = (.ok u,e)) : Reached root s u

/-- An operation writes that one record or, if it is to write none, leaves the store alone. -/
inductive Writing (s : Store) : Option Job → Except StoreError Answer × Store → Prop
  | nothing : Writing s none (r,s)
  | failed (persisted : s.persist j = (.error e,t)) : Writing s (some j) (.error e,t)
  | done (persisted : s.persist j = (.ok (),t))
    (records : ∀ i, ix.find? i = if j.id = i then some j else s.find? i) :
    Writing s (some j) (.ok a,{ t with index := ix })

variable {s t u : Store} {root : Path} {above : List String} {j : Job} {o : Operation}
  {d e disk folder : Disk}

theorem entered_writing {next : Index → Index} {wrap : α → Answer}
    (hn : ∀ i, (next s.index).find? i = if j.id = i then some j else s.find? i) :
    s.Writing (some j) (answered wrap (s.entered j a next)) := by
  obtain ⟨e,t,hp,he⟩ | ⟨t,hp,he⟩ := entered_cases s j a next <;> rw [he]
  · exact .failed hp
  · exact .done hp hn

theorem perform_writing (hk : s.Keyed) (hf : s.faults = []) (o : Operation) :
    s.Writing (s.writes? o) (s.perform o) := by
  have hrun {α : Type} {call : StoreCall} {run : Store → Except StoreError α × Store} :
      s.guarded call run = run s := guarded_faultless hf
  cases o with
  | create k =>
    simp only [perform,create,hrun,createRecord_eq,writes?]
    split
    · exact .nothing
    · exact entered_writing (Index.find?_load s.index k)
  | get id =>
    simp only [perform,get,hrun,getRecord,writes?]
    split <;> exact .nothing
  | update id changes =>
    simp only [perform,update,hrun,updateRecord_eq,writes?]
    cases hold : s.find? id with
    | none => exact .nothing
    | some old =>
      simp only [Option.bind_some]
      cases hc : old.changeAll changes with
      | error e => exact .nothing
      | ok new =>
        have hid : new.id = id := (Job.changeAll_id hc).trans (hk id old hold)
        exact entered_writing (Index.find?_replace_own s.index old hid)
  | next f now =>
    simp only [perform,next,hrun,claim_eq,writes?]
    cases hc : s.candidate? f with
    | none => exact .nothing
    | some c =>
      obtain ⟨id,old⟩ := c
      have hid : (old.taken now).id = id := hk id old (candidate?_some hc).1
      exact entered_writing (Index.find?_replace_own s.index old hid)

theorem take_writing (hk : s.Keyed) (hf : s.faults = []) (x : Step) :
    Writing { s with failures := [x.failure] } (s.writes? x.operation) (s.take x) := by
  have hw := perform_writing (s := { s with failures := [x.failure] }) hk hf x.operation
  have hsame : ({ s with failures := [x.failure] } : Store).writes? x.operation =
      s.writes? x.operation := by
    cases x.operation <;> rfl
  rwa [hsame] at hw

/-- A write that is let be goes through all of its points. -/
theorem persist_let (hr : s.root = some root) : { s with failures := [none] }.persist j = (.ok (),t) ↔
    ∃ d e, s.disk.save (tempPath root j.id) (recordBytes j) = .ok d ∧
      d.rename (tempPath root j.id) (recordPath root j.id) = .ok e ∧
      t = { s with disk := e, failures := [] } := by
  simp only [persist,hr]
  unfold writeRecord
  dsimp only
  cases s.disk.save (tempPath root j.id) (recordBytes j) with
  | error e => simp
  | ok d =>
    dsimp only
    cases hm : d.rename (tempPath root j.id) (recordPath root j.id) with
    | error e => simp [hm]
    | ok e => simp [hm,eq_comm]

/-- Once the file has been replaced the disk is the one that the operation leaves when it is over. -/
theorem renamed_over (hd : Durable s root above) (hw : s.writes? o = some j)
    (saved : s.disk.save (tempPath root j.id) (recordBytes j) = .ok d)
    (moved : d.rename (tempPath root j.id) (recordPath root j.id) = .ok e) :
    (s.take ⟨o,none⟩).2.disk = e := by
  have hp := (persist_let hd.mirrored.home).mpr ⟨d,e,saved,moved,rfl⟩
  have h := take_writing hd.mirrored.files.keyed hd.faultless ⟨o,none⟩
  dsimp only at h
  rw [hw] at h
  generalize s.take ⟨o,none⟩ = p at h ⊢
  cases h with
  | failed persisted => cases hp.symm.trans persisted
  | done persisted records =>
    cases hp.symm.trans persisted
    rfl

/-- Where the process stops at the end of an operation that was answered well. -/
theorem stopped_over (hd : Durable s root above) (hw : s.writes? o = some j)
    (ha : (s.take ⟨o,none⟩).1 = .ok a) : s.Stopped root j (s.take ⟨o,none⟩).2.disk := by
  have h := take_writing hd.mirrored.files.keyed hd.faultless ⟨o,none⟩
  dsimp only at h
  rw [hw] at h
  generalize s.take ⟨o,none⟩ = p at h ha ⊢
  cases h with
  | failed persisted => cases ha
  | done persisted records =>
    obtain ⟨d,e,hs,hm,rfl⟩ := (persist_let hd.mirrored.home).mp persisted
    exact .renamed hs hm

/-- The records of an opened store are those of another one, as they are read back. -/
def Recalls (u s : Store) : Prop :=
  ∀ id, u.find? id = (s.find? id).map Job.settled

theorem Mirrors.recalled (h : Mirrors d root above s.index) (hx : s.index.Legible) :
    ∃ u, openAt root d = (.ok u,d) ∧ Durable u root above ∧ u.Recalls s := by
  obtain ⟨_,hu,hd,hfind⟩ := h.opened hx
  exact ⟨_,hu,hd,hfind⟩

theorem Reached.run (h : Reached root s t) {run : List Step}
    (legible : ∀ x ∈ run, x.operation.Legible) : Reached root s (t.after run) := by
  induction run generalizing t with
  | nil => exact h
  | cons x run ih =>
    rw [List.forall_mem_cons] at legible
    exact ih (h.step legible.1) legible.2

namespace Durable

theorem step (h : Durable t root above) {x : Step} (hx : x.operation.Legible) :
    Durable (t.take x).2 root above :=
  h.after (List.forall_mem_singleton.mpr hx)

theorem opened (h : Durable s root above) :
    ∃ u, openAt root s.disk = (.ok u,s.disk) ∧ Durable u root above ∧ u.Recalls s :=
  h.mirrored.files.recalled h.legible

theorem stopped (h : Durable t root above) (ho : o.Legible) (hw : t.writes? o = some j)
    (hs : t.Stopped root j d) : ∃ u, openAt root d = (.ok u,d) ∧ Durable u root above ∧
      (u.Recalls t ∨ u.Recalls (t.take ⟨o,none⟩).2) := by
  have hm := h.mirrored.files
  cases hs with
  | untouched =>
    obtain ⟨u,hu,hd,hfind⟩ := h.opened
    exact ⟨u,hu,hd,Or.inl hfind⟩
  | begun part saved =>
    obtain ⟨u,hu,hd,hfind⟩ := (hm.save j.id saved).1.recalled h.legible
    exact ⟨u,hu,hd,Or.inl hfind⟩
  | renamed saved moved =>
    have hover : Durable (t.take ⟨o,none⟩).2 root above := h.step ho
    obtain ⟨u,hu,hd,hfind⟩ := hover.opened
    rw [renamed_over h hw saved moved] at hu
    exact ⟨u,hu,hd,Or.inr hfind⟩

/-- What is found after a crash is as good a start as any. -/
theorem reached (hs : Durable s root above) (h : Reached root s t) : Durable t root above := by
  induction h with
  | start => exact hs
  | step _ legible ih => exact ih.step legible
  | restart _ opened ih =>
    obtain ⟨u,hu,hd,_⟩ := ih.opened
    rw [opened] at hu
    cases hu
    exact hd
  | crash _ legible writes stopped opened ih =>
    obtain ⟨u,hu,hd,_⟩ := ih.stopped legible writes stopped
    rw [opened] at hu
    cases hu
    exact hd

end Durable

theorem durable_empty (opened : openAt root disk = (.ok s,folder))
    (listed : folder.list root = .ok []) : ∃ above, Durable s root above := by
  obtain ⟨hx,hf,above,hm⟩ := mirrored_empty opened listed
  refine ⟨above,hm,hx ▸ Index.exact_empty,?_,hf⟩
  rw [hx]
  intro id r hr
  cases hr

/-- Of all records an operation changes at most the one that it writes. -/
theorem take_others (hd : Durable t root above) (hw : t.writes? o = some j) {id : JobId}
    (hid : j.id ≠ id) : (t.take ⟨o,f⟩).2.find? id = t.find? id := by
  have h := take_writing hd.mirrored.files.keyed hd.faultless ⟨o,f⟩
  dsimp only at h
  rw [hw] at h
  generalize t.take ⟨o,f⟩ = p at h ⊢
  cases h with
  | failed persisted => exact find?_congr (persist_index persisted) id
  | done persisted records => exact (records id).trans (if_neg hid)

/-- Wherever the process stops while an operation writes a record, in whatever store that operations,
restarts and earlier crashes have come to from an empty folder, the folder can be opened again, with
all records as they were before the operation or all as they are after it, but for results that are
null, which are read back as none. Those after it differ in the one job that was written. -/
theorem crash_safe (opened : openAt root disk = (.ok s,folder))
    (listed : folder.list root = .ok []) (reached : Reached root s t) (legible : o.Legible)
    (writes : t.writes? o = some j) (stopped : t.Stopped root j d) :
    ∃ u, openAt root d = (.ok u,d) ∧ u.index.Exact ∧
      (u.Recalls t ∨ u.Recalls (t.take ⟨o,none⟩).2) ∧
      ∀ id, id ≠ j.id → (t.take ⟨o,none⟩).2.find? id = t.find? id := by
  obtain ⟨above,hs⟩ := durable_empty opened listed
  have ht := hs.reached reached
  obtain ⟨u,hu,hd,hfind⟩ := ht.stopped legible writes stopped
  exact ⟨u,hu,hd.exact,hfind,fun id hid => take_others ht writes (Ne.symm hid)⟩

namespace Sample

def vacant : Store :=
  ⟨⟨[(["jobs"],.folder)]⟩,some "/jobs",.empty,[],[]⟩

theorem vacant_opened : openAt "/jobs" .empty = (.ok vacant,vacant.disk) := rfl

theorem vacant_listed : vacant.disk.list "/jobs" = .ok [] := rfl

def started : List Step :=
  [⟨.create first,none⟩,⟨.next ⟨["build"],"x86"⟩ .epoch,none⟩]

/-- A store that was opened in an empty folder, in which one job runs. -/
def busy : Store :=
  vacant.after started

theorem busy_reached : Reached "/jobs" vacant busy := by
  refine Reached.start.run ?_
  simp only [started,List.forall_mem_cons,List.not_mem_nil,false_implies,implies_true,and_true]
  exact ⟨first_legible,Instant.epoch_valid⟩

theorem conclusion_legible : conclusion.Legible :=
  concluded_legible ⟨conclusion,none⟩ (.tail _ (.tail _ (.head _)))

def state (j : Job) : JobStatus × Bool :=
  (j.status,j.result.isSome)

theorem busy_over : (busy.writes? conclusion).isSome = true ∧
    (busy.take ⟨conclusion,none⟩).1.toOption.isSome = true ∧
    (busy.find? first.id).map state = some (.running,false) ∧
    ((busy.take ⟨conclusion,none⟩).2.find? first.id).map
      (fun j => (state j,state j.settled)) = some ((.finished,true),(.finished,false)) := by
  decide +kernel

theorem busy_stopped : ∃ j, busy.writes? conclusion = some j ∧
    busy.Stopped "/jobs" j (busy.take ⟨conclusion,none⟩).2.disk := by
  obtain ⟨j,hj⟩ := Option.isSome_iff_exists.mp busy_over.1
  obtain ⟨a,ha⟩ := Option.isSome_iff_exists.mp busy_over.2.1
  obtain ⟨above,hs⟩ := durable_empty vacant_opened vacant_listed
  have hok : (busy.take ⟨conclusion,none⟩).1 = .ok a := by
    generalize (busy.take ⟨conclusion,none⟩).1 = r at ha ⊢
    cases r with
    | error e => cases ha
    | ok b => exact congrArg Except.ok (Option.some.inj ha)
  exact ⟨j,hj,stopped_over (hs.reached busy_reached) hj hok⟩

/-- The first byte of a record. -/
def front : Bytes := [123]

theorem busy_begun : (busy.writes? conclusion).map
      (fun j => (j.id,front.isPrefixOf (recordBytes j))) = some (first.id,true) ∧
    (busy.disk.save (tempPath "/jobs" first.id) front).toOption.isSome = true := by
  decide +kernel

theorem busy_torn (hj : busy.writes? conclusion = some j) : front <+: recordBytes j ∧
    ∃ torn, busy.disk.save (tempPath "/jobs" j.id) front = .ok torn := by
  obtain ⟨hrecord,hsaved⟩ := busy_begun
  rw [hj] at hrecord
  obtain ⟨hid,hpart⟩ := Prod.mk.inj (Option.some.inj hrecord)
  refine ⟨List.isPrefixOf_iff_prefix.mp hpart,?_⟩
  rw [hid]
  cases hs : busy.disk.save (tempPath "/jobs" first.id) front with
  | error e =>
    rw [hs] at hsaved
    cases hsaved
  | ok torn => exact ⟨torn,rfl⟩

end Sample

open Sample in
/-- The process stops when the first byte is in the temporary file, or once the file is renamed. -/
theorem crash_safe_busy : ∃ j torn, busy.writes? conclusion = some j ∧
    busy.disk.save (tempPath "/jobs" j.id) front = .ok torn ∧
    ∀ d ∈ [torn,(busy.take ⟨conclusion,none⟩).2.disk],
      ∃ u, openAt "/jobs" d = (.ok u,d) ∧
        (u.Recalls busy ∨ u.Recalls (busy.take ⟨conclusion,none⟩).2) := by
  obtain ⟨j,hj,hrenamed⟩ := busy_stopped
  obtain ⟨hpart,torn,hsaved⟩ := busy_torn hj
  refine ⟨j,torn,hj,hsaved,fun d hd => ?_⟩
  have hstopped : busy.Stopped "/jobs" j d := by
    rcases List.mem_pair.mp hd with hd | hd
    · exact hd ▸ .begun hpart hsaved
    · exact hd ▸ hrenamed
  obtain ⟨u,hu,_,hfind,_⟩ := crash_safe vacant_opened vacant_listed busy_reached conclusion_legible
    hj hstopped
  exact ⟨u,hu,hfind⟩

/-- What is found after a crash need not be exactly what was there before the operation or after it:
a null result is read back as none. -/
theorem null_result_forgotten :
    Reached "/jobs" Sample.vacant Sample.busy ∧ Sample.conclusion.Legible ∧
    ∃ j d u, Sample.busy.writes? Sample.conclusion = some j ∧ Sample.busy.Stopped "/jobs" j d ∧
      openAt "/jobs" d = (.ok u,d) ∧
      u.find? Sample.first.id ≠ Sample.busy.find? Sample.first.id ∧
      u.find? Sample.first.id ≠
        (Sample.busy.take ⟨Sample.conclusion,none⟩).2.find? Sample.first.id := by
  refine ⟨Sample.busy_reached,Sample.conclusion_legible,?_⟩
  obtain ⟨_,_,hbusy,hover⟩ := Sample.busy_over
  obtain ⟨j,hj,hstopped⟩ := Sample.busy_stopped
  obtain ⟨above,hs⟩ := durable_empty Sample.vacant_opened Sample.vacant_listed
  have hd : Durable (Sample.busy.take ⟨Sample.conclusion,none⟩).2 "/jobs" above :=
    (hs.reached Sample.busy_reached).step Sample.conclusion_legible
  obtain ⟨u,hu,_,hfind⟩ := hd.opened
  have hid := hfind Sample.first.id
  obtain ⟨r,hr,hstates⟩ := Option.map_eq_some_iff.mp hover
  obtain ⟨hfinished,hlost⟩ := Prod.mk.inj hstates
  rw [hr,Option.map_some] at hid
  refine ⟨j,_,u,hj,hstopped,hu,?_,?_⟩
  · intro he
    rw [← he,hid,Option.map_some,hlost] at hbusy
    cases hbusy
  · intro he
    rw [hid,hr] at he
    have hsame : r.settled = r := Option.some.inj he
    rw [hsame,hfinished] at hlost
    cases hlost

end Store

end BuildFarm
