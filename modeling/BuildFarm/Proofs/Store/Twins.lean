import BuildFarm.Proofs.Store.Likeness
import BuildFarm.Proofs.Store.Reopening

namespace BuildFarm

namespace Job

theorem settled_settled (j : Job) : j.settled.settled = j.settled := by
  obtain ⟨_,_,_,_,_,_,result,_,_,_⟩ := j
  cases result with
  | none => rfl
  | some v => cases v <;> rfl

/-- Nothing is lost of what is written. -/
theorem toJson_settled (j : Job) : j.settled.toJson = j.toJson := by
  obtain ⟨_,_,_,_,_,_,result,_,_,_⟩ := j
  cases result with
  | none => rfl
  | some v => cases v <;> rfl

theorem change_settled (j : Job) (c : Change) :
    (j.settled.change c).map settled = (j.change c).map settled := by
  refine change_congr rfl ?_
  cases c with
  | markRunning now => exact settled_settled (j.taken now)
  | release => exact settled_settled j.returned
  | conclude status result now => rfl
  | cancel => exact settled_settled j.cancel

theorem recordBytes_twin {j k : Job} (h : k.settled = j.settled) :
    Store.recordBytes k = Store.recordBytes j := by
  unfold Store.recordBytes
  rw [← toJson_settled k,h,toJson_settled]

end Job

/-- Records that are read back as the same, and the same ids that wait. -/
structure Index.Twin (ix iy : Index) : Prop where
  pending : iy.pending = ix.pending
  records : ∀ id, (iy.find? id).map Job.settled = (ix.find? id).map Job.settled

namespace Store

/-- The same store, but with records of its own that are read back as the same. -/
structure Twin (s t : Store) : Prop where
  same : t = { s with index := t.index }
  index : s.index.Twin t.index

/-- What two calls come to that cannot be told apart. -/
structure Agree (settle : α → α) (p q : Except StoreError α × Store) : Prop where
  answer : q.1.map settle = p.1.map settle
  store : Twin p.2 q.2

def Answer.settled : Answer → Answer
  | .created => .created
  | .record j => .record j.settled
  | .claim j => .claim (j.map Job.settled)

section Write

variable {j k : Job}

theorem writeRecord_with (h : k.settled = j.settled) (s : Store) (ix : Index)
    (fs : List PlannedFault) (root : Path) :
    ({ s with index := ix, faults := fs } : Store).writeRecord root k =
      ((s.writeRecord root j).1,{ (s.writeRecord root j).2 with index := ix, faults := fs }) := by
  have hid : k.id = j.id := (congrArg Job.id h :)
  have hbytes := Job.recordBytes_twin h
  unfold writeRecord
  dsimp only
  rw [hid,hbytes]
  cases s.disk.save (tempPath root j.id) (recordBytes j) with
  | error e => rfl
  | ok d =>
    dsimp only
    cases d.rename (tempPath root j.id) (recordPath root j.id) <;> rfl

/-- What is written of a record is all that a write depends on. -/
theorem persist_with (h : k.settled = j.settled) (s : Store) (ix : Index)
    (fs : List PlannedFault) : ({ s with index := ix, faults := fs } : Store).persist k =
      ((s.persist j).1,{ (s.persist j).2 with index := ix, faults := fs }) := by
  have hid : k.id = j.id := (congrArg Job.id h :)
  obtain ⟨disk,root,index,faults,failures⟩ := s
  cases root with
  | none => rfl
  | some root =>
    cases failures with
    | nil => exact writeRecord_with h ⟨disk,some root,index,faults,[]⟩ ix fs root
    | cons f rest =>
      cases f with
      | none => exact writeRecord_with h ⟨disk,some root,index,faults,rest⟩ ix fs root
      | some f => simp only [persist,failWrite,hid]

end Write

/-- What is looked at in a record is what is read back of it. -/
def Likeness.settled : Likeness where
  seen := Job.settled
  disks _ d e := e = d
  id _ := rfl
  type _ := rfl
  args _ := rfl
  dependencies _ := rfl
  status _ := rfl
  result j := by
    obtain ⟨_,_,_,_,_,_,result,_,_,_⟩ := j
    cases result with
    | none => rfl
    | some v => cases v <;> rfl
  change := Job.change_settled
  persist {s t j k} hr hf hd hj := by
    have ht : t = { s with index := t.index, faults := t.faults } := by
      obtain ⟨_,_,_,_,_⟩ := t
      cases hr
      cases hf
      cases hd
      rfl
    rw [ht,persist_with hj s t.index t.faults]
    exact ⟨rfl,rfl⟩

variable {s t : Store}

theorem Twin.like (h : Twin s t) : Like .settled s t where
  root := by rw [h.same]
  faults := by rw [h.same]
  failures := by rw [h.same]
  disks := by
    change t.disk = s.disk
    rw [h.same]
  index := ⟨h.index.pending,h.index.records⟩

theorem Like.twin (h : Like .settled s t) : Twin s t where
  same := by
    obtain ⟨_,_,_,_,_⟩ := t
    obtain ⟨hroot,hfaults,hfailures,hdisks,_⟩ := h
    cases hroot
    cases hfaults
    cases hfailures
    cases hdisks
    rfl
  index := ⟨h.index.pending,h.index.records⟩

theorem Likewise.agree {r : α → α → Prop} {p q : Except StoreError α × Store}
    (h : Likewise .settled r p q) {wrap : α → Answer}
    (hr : ∀ a b, r a b → (wrap b).settled = (wrap a).settled) :
    Agree Answer.settled (answered wrap p) (answered wrap q) where
  store := h.store.twin
  answer := by
    have ha := h.answer
    unfold answered
    generalize p.1 = x at ha ⊢
    generalize q.1 = y at ha ⊢
    cases ha with
    | ok h => exact congrArg Except.ok (hr _ _ h)
    | error h => exact congrArg Except.error h.symm

theorem take_twin (h : Twin s t) (x : Step) : Agree Answer.settled (s.take x) (t.take x) := by
  have hx : Like .settled { s with failures := [x.failure] } { t with failures := [x.failure] } :=
    ⟨h.like.root,h.like.faults,rfl,h.like.disks,h.like.index⟩
  unfold take
  cases x.operation with
  | create j => exact (hx.create j).agree (fun _ _ _ => rfl)
  | get id => exact (hx.get id).agree (fun _ _ hj => congrArg Answer.record hj)
  | update id changes => exact (hx.update id changes).agree (fun _ _ hj => congrArg Answer.record hj)
  | next f now => exact (hx.next f now).agree (fun _ _ hj => congrArg Answer.claim hj)

/-- Twins answer alike, whatever is asked of them and whatever writes fail. -/
theorem answers_twin (h : Twin s t) (run : List Step) :
    (t.answers run).map (Except.map Answer.settled) =
      (s.answers run).map (Except.map Answer.settled) := by
  induction run generalizing s t with
  | nil => rfl
  | cons x run ih =>
    obtain ⟨ha,hs⟩ := take_twin h x
    simp only [answers,List.map_cons,ha,ih hs]

end Store

end BuildFarm
