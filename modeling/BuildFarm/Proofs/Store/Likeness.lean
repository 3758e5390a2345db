import BuildFarm.Proofs.Disk.Interchangeable
import BuildFarm.Proofs.Store.Mirror

namespace BuildFarm

namespace Store

/-- What is looked at in records and disks. -/
structure Likeness where
  seen : Job → Job
  disks : Option Path → Disk → Disk → Prop
  id : ∀ j, (seen j).id = j.id
  type : ∀ j, (seen j).type = j.type
  args : ∀ j, (seen j).args = j.args
  dependencies : ∀ j, (seen j).dependencies = j.dependencies
  status : ∀ j, (seen j).status = j.status
  result : ∀ j, Json.ofOption (seen j).result = Json.ofOption j.result
  change : ∀ j c, ((seen j).change c).map seen = (j.change c).map seen
  persist : ∀ {s t : Store} {j k : Job}, t.root = s.root → t.failures = s.failures →
    disks s.root s.disk t.disk → seen k = seen j →
    (t.persist k).1 = (s.persist j).1 ∧ disks s.root (s.persist j).2.disk (t.persist k).2.disk

namespace Likeness

variable (l : Likeness) {j k : Job}

/-- What a worker or a dependent is told of both. -/
structure Fields (j k : Job) : Prop where
  id : k.id = j.id
  type : k.type = j.type
  args : k.args = j.args
  dependencies : k.dependencies = j.dependencies
  status : k.status = j.status
  result : Json.ofOption k.result = Json.ofOption j.result

theorem fields (h : l.seen k = l.seen j) : Fields j k := by
  have both {α : Type} (f : Job → α) (hf : ∀ j, f (l.seen j) = f j) : f k = f j := by
    rw [← hf k,h,hf j]
  exact ⟨both _ l.id,both _ l.type,both _ l.args,both _ l.dependencies,both _ l.status,
    both (fun j => Json.ofOption j.result) l.result⟩

theorem change_like (h : l.seen k = l.seen j) (c : Job.Change) :
    (k.change c).map l.seen = (j.change c).map l.seen := by
  rw [← l.change k,h,l.change j]

theorem taken_like (h : l.seen k = l.seen j) (hw : j.status = .pending) (now : Instant) :
    l.seen (k.taken now) = l.seen (j.taken now) := by
  have hc := l.change_like h (.markRunning now)
  simp only [Job.change] at hc
  rw [Job.markRunning_ok hw,Job.markRunning_ok ((l.fields h).status.trans hw)] at hc
  exact Except.ok.inj hc

theorem changeAll_like (h : l.seen k = l.seen j) (cs : List Job.Change) :
    (k.changeAll cs).map l.seen = (j.changeAll cs).map l.seen := by
  induction cs generalizing j k with
  | nil => exact congrArg Except.ok h
  | cons c cs ih =>
    have hc := l.change_like h c
    simp only [Job.changeAll,bind,Except.bind]
    cases hj : j.change c <;> cases hk : k.change c <;> rw [hj,hk] at hc
    · exact hc
    · cases hc
    · cases hc
    · exact ih (Except.ok.inj hc)

end Likeness

end Store

/-- Records that look the same, and the same ids that wait. -/
structure Index.Like (l : Store.Likeness) (ix iy : Index) : Prop where
  pending : iy.pending = ix.pending
  records : ∀ id, (iy.find? id).map l.seen = (ix.find? id).map l.seen

namespace Index.Like

variable {l : Store.Likeness} {ix iy : Index} {old old' new new' : Job} {id : JobId}

theorem found (h : ix.Like l iy) (id : JobId) : (ix.find? id = none ∧ iy.find? id = none) ∨
    ∃ j k, ix.find? id = some j ∧ iy.find? id = some k ∧ l.seen k = l.seen j := by
  have hr := h.records id
  cases hj : ix.find? id <;> cases hk : iy.find? id <;> rw [hj,hk] at hr
  · exact Or.inl ⟨rfl,rfl⟩
  · cases hr
  · cases hr
  · exact Or.inr ⟨_,_,rfl,rfl,Option.some.inj hr⟩

theorem insert (h : ix.Like l iy) (id : JobId) (hn : l.seen new' = l.seen new) (p : List JobId) :
    Like l ⟨Table.insert ix.records id new,p⟩ ⟨Table.insert iy.records id new',p⟩ where
  pending := rfl
  records i := by
    unfold Index.find?
    rw [Table.find?_insert,Table.find?_insert]
    split
    · exact congrArg some hn
    · exact h.records i

theorem load (h : ix.Like l iy) (j : Job) : (ix.load j).Like l (iy.load j) := by
  unfold Index.load
  rw [h.pending]
  exact h.insert j.id rfl _

theorem replace (h : ix.Like l iy) (id : JobId) (ho : l.seen old' = l.seen old)
    (hn : l.seen new' = l.seen new) : (ix.replace id old new).Like l (iy.replace id old' new') := by
  unfold Index.replace
  rw [h.pending,(l.fields ho).status,(l.fields hn).status]
  exact h.insert id hn _

end Index.Like

namespace Store

/-- Stores that are looked at and seem the same. -/
structure Like (l : Likeness) (s t : Store) : Prop where
  root : t.root = s.root
  faults : t.faults = s.faults
  failures : t.failures = s.failures
  disks : l.disks s.root s.disk t.disk
  index : s.index.Like l t.index

/-- What two calls come to that cannot be told apart. -/
structure Likewise (l : Likeness) (r : α → β → Prop) (p : Except ε α × Store)
    (q : Except ε β × Store) : Prop where
  answer : Both Eq r p.1 q.1
  store : Like l p.2 q.2

theorem writeRecord_failures (s : Store) (root : Path) (j : Job) :
    (s.writeRecord root j).2.failures = s.failures := by
  unfold writeRecord
  dsimp only
  split
  · rfl
  · split <;> rfl

theorem persist_failures (s : Store) (j : Job) :
    (s.persist j).2.failures = if s.root = none then s.failures else s.failures.tail := by
  unfold persist
  split
  · rename_i hr
    simp [hr]
  · rename_i hr
    split
    · rename_i hf
      simp [hr,hf,writeRecord_failures]
    · rename_i hf
      simp [hr,hf,writeRecord_failures]
    · rename_i hf
      simp [hr,hf,failWrite]

namespace Like

variable {l : Likeness} {s t u : Store} {j k : Job}

theorem persist (h : Like l s t) (hj : l.seen k = l.seen j) :
    (t.persist k).1 = (s.persist j).1 ∧ Like l (s.persist j).2 (t.persist k).2 := by
  obtain ⟨ha,hd⟩ := l.persist h.root h.failures h.disks hj
  have hs := persist_alike s j
  have ht := persist_alike t k
  refine ⟨ha,?_,?_,?_,?_,?_⟩
  · rw [ht.root,hs.root,h.root]
  · rw [ht.faults,hs.faults,h.faults]
  · rw [persist_failures,persist_failures,h.root,h.failures]
  · rw [hs.root]
    exact hd
  · rw [hs.index,ht.index]
    exact h.index

theorem plan (h : Like l s t) (faults : List PlannedFault) (failures : List (Option WriteFailure)) :
    Like l { s with faults := faults, failures := failures }
      { t with faults := faults, failures := failures } :=
  ⟨h.root,rfl,rfl,h.disks,h.index⟩

theorem find? (h : Like l s t) (id : JobId) : (s.find? id = none ∧ t.find? id = none) ∨
    ∃ j k, s.find? id = some j ∧ t.find? id = some k ∧ l.seen k = l.seen j :=
  h.index.found id

theorem guarded {r : α → β → Prop} {run : Store → Except StoreError α × Store}
    {run' : Store → Except StoreError β × Store} (h : Like l s t)
    (hr : ∀ s t, Like l s t → Likewise l r (run s) (run' t)) :
    Likewise l r (s.guarded call run) (t.guarded call run') := by
  have hrest (fs : List PlannedFault) : Like l { s with faults := fs } { t with faults := fs } :=
    ⟨h.root,rfl,h.failures,h.disks,h.index⟩
  unfold Store.guarded
  rw [h.faults]
  cases strike call s.faults with
  | mk e fs =>
    cases e with
    | none => exact hr _ _ (hrest fs)
    | some e => exact ⟨.error rfl,hrest fs⟩

theorem entered {r : α → β → Prop} {a : α} {b : β} (h : Like l s t) (hj : l.seen k = l.seen j)
    (ha : r a b) (next next' : Index → Index)
    (hn : ∀ ix iy : Index, ix.Like l iy → (next ix).Like l (next' iy)) :
    Likewise l r (s.entered j a next) (t.entered k b next') := by
  obtain ⟨he,ht⟩ := h.persist hj
  unfold Store.entered
  cases hs : s.persist j with
  | mk x u =>
    cases hk : t.persist k with
    | mk y v =>
      rw [hs,hk] at he ht
      cases he
      cases x with
      | error e => exact ⟨.error rfl,ht⟩
      | ok _ => exact ⟨.ok ha,ht.root,ht.faults,ht.failures,ht.disks,hn _ _ ht.index⟩

theorem create (h : Like l s t) (j : Job) :
    Likewise l (fun _ _ => True) (s.create j) (t.create j) := by
  refine h.guarded ?_
  intro s t h
  rw [createRecord_eq,createRecord_eq]
  rcases h.find? j.id with ⟨hs,ht⟩ | ⟨r,r',hs,ht,_⟩
  · rw [hs,ht]
    exact h.entered rfl trivial (·.load j) (·.load j) (fun _ _ hx => hx.load j)
  · rw [hs,ht]
    exact ⟨.error rfl,h⟩

theorem get (h : Like l s t) (id : JobId) :
    Likewise l (fun j k => l.seen k = l.seen j) (s.get id) (t.get id) := by
  refine h.guarded ?_
  intro s t h
  unfold getRecord
  rcases h.find? id with ⟨hs,ht⟩ | ⟨r,r',hs,ht,hr⟩
  · rw [hs,ht]
    exact ⟨.error rfl,h⟩
  · rw [hs,ht]
    exact ⟨.ok hr,h⟩

theorem update (h : Like l s t) (id : JobId) (changes : List Job.Change) :
    Likewise l (fun j k => l.seen k = l.seen j) (s.update id changes) (t.update id changes) := by
  refine h.guarded ?_
  intro s t h
  rw [updateRecord_eq,updateRecord_eq]
  rcases h.find? id with ⟨hs,ht⟩ | ⟨old,old',hs,ht,ho⟩
  · rw [hs,ht]
    exact ⟨.error rfl,h⟩
  · rw [hs,ht]
    dsimp only
    have hc := l.changeAll_like ho changes
    cases hn : old.changeAll changes <;> cases hn' : old'.changeAll changes <;> rw [hn,hn'] at hc
    · exact ⟨.error (Except.error.inj hc).symm,h⟩
    · cases hc
    · cases hc
    · have hnew := Except.ok.inj hc
      refine h.entered hnew ?_ _ _ (fun _ _ hx => hx.replace id ho hnew)
      exact hnew

theorem dependenciesFinished (h : Like l s t) (hj : l.seen k = l.seen j) :
    t.dependenciesFinished k = s.dependenciesFinished j := by
  unfold Store.dependenciesFinished
  rw [(l.fields hj).dependencies]
  congr 1
  funext d
  rcases h.find? d with ⟨hs,ht⟩ | ⟨r,r',hs,ht,hr⟩
  · rw [hs,ht]
  · rw [hs,ht]
    dsimp only
    rw [(l.fields hr).status]

theorem candidate? (h : Like l s t) (f : ClaimFilter) :
    (t.candidate? f).map (fun p => (p.1,l.seen p.2)) =
      (s.candidate? f).map (fun p => (p.1,l.seen p.2)) := by
  unfold Store.candidate?
  rw [List.map_findSome?,List.map_findSome?,h.index.pending]
  congr 1
  funext id
  simp only [Function.comp_apply]
  rcases h.find? id with ⟨hs,ht⟩ | ⟨r,r',hs,ht,hr⟩
  · rw [hs,ht]
  · have ha : f.accepts r' = f.accepts r := by
      have hf := l.fields hr
      simp only [ClaimFilter.accepts,hf.type,hf.status]
    rw [hs,ht]
    dsimp only
    rw [ha,h.dependenciesFinished hr]
    split
    · exact congrArg (fun j => some (id,j)) hr
    · rfl

theorem next (h : Like l s t) (f : ClaimFilter) (now : Instant) :
    Likewise l (fun a b => b.map l.seen = a.map l.seen) (s.next f now) (t.next f now) := by
  refine h.guarded ?_
  intro s t h
  have hc := h.candidate? f
  rw [claim_eq,claim_eq]
  cases hs : s.candidate? f <;> cases ht : t.candidate? f <;> rw [hs,ht] at hc
  · exact ⟨.ok rfl,h⟩
  · cases hc
  · cases hc
  · rename_i p q
    obtain ⟨id,old⟩ := p
    obtain ⟨id',old'⟩ := q
    obtain ⟨rfl,ho⟩ := Prod.mk.inj (Option.some.inj hc)
    dsimp only at ho ⊢
    have hnew := l.taken_like ho (accepts_pending (candidate?_some hs).2.1) now
    refine h.entered hnew ?_ _ _ (fun _ _ hx => hx.replace _ ho hnew)
    exact congrArg some hnew

end Like

open Disk

/-- Disks on which a store can write the same. One that is kept in memory writes nothing. -/
def Serve (root : Option Path) (d e : Disk) : Prop :=
  ∀ p, root = some p → Interchangeable p d e

section Writes

variable {s t : Store} {p : Path} {j k : Job}

theorem writeRecord_aside (hd : s.disk.Ordered) (p : Path) (j : Job) :
    Interchangeable p s.disk (s.writeRecord p j).2.disk := by
  unfold writeRecord
  dsimp only
  split
  · exact .refl hd p
  · rename_i d hs
    have hsave : Interchangeable p s.disk d := .of_save hd (own_tempName j.id) hs
    split
    · exact hsave
    · rename_i e hr
      exact hsave.trans (.of_rename hsave.right (own_tempName j.id) (own_recordName j.id) hr)

/-- What a write does to the disk, be it that it fails, is of no account for later ones. -/
theorem persist_aside (hd : s.disk.Ordered) (hr : s.root = some p) (j : Job) :
    Interchangeable p s.disk (s.persist j).2.disk := by
  simp only [persist,hr]
  split
  · exact writeRecord_aside hd p j
  · exact writeRecord_aside (s := ⟨s.disk,some p,s.index,s.faults,_⟩) hd p j
  · rename_i f rest _
    unfold failWrite
    dsimp only
    cases f.left with
    | none => exact .refl hd p
    | some bs =>
      dsimp only
      cases hs : s.disk.save (tempPath p j.id) bs with
      | error e => exact .refl hd p
      | ok e => exact .of_save hd (own_tempName j.id) hs

/-- Nor is what any call does to it. -/
theorem serve_lasting (root : Option Path) (d : Disk) :
    Lasting (fun s => s.root = root ∧ Serve root d s.disk) := by
  refine .of_kept (.of_persist (fun _ _ h => h) ?_ (fun _ _ _ _ h => h)) (fun _ _ _ h => h)
  rintro s j ⟨hroot,hd⟩
  refine ⟨(persist_alike s j).root.trans hroot,fun p hp => ?_⟩
  exact (hd p hp).trans (persist_aside (hd p hp).right (hroot.trans hp) j)

theorem writeRecord_answer (hd : Interchangeable p s.disk t.disk) (hid : k.id = j.id) :
    (t.writeRecord p k).1 = (s.writeRecord p j).1 := by
  have hsave : Both Eq (fun _ _ => True) (s.disk.save (tempPath p j.id) (recordBytes j))
      (t.disk.save (tempPath p j.id) (recordBytes k)) := hd.save (own_tempName j.id) _ _
  unfold writeRecord
  rw [hid]
  dsimp only
  cases hs : s.disk.save (tempPath p j.id) (recordBytes j) with
  | error x =>
    rw [hs] at hsave
    cases ht : t.disk.save (tempPath p j.id) (recordBytes k) <;> rw [ht] at hsave <;> cases hsave
    rename_i hx
    rw [hx]
  | ok d =>
    rw [hs] at hsave
    cases ht : t.disk.save (tempPath p j.id) (recordBytes k) <;> rw [ht] at hsave <;> cases hsave
    rename_i e _
    have hmove : Both Eq (fun _ _ => True) (d.rename (tempPath p j.id) (recordPath p j.id))
        (e.rename (tempPath p j.id) (recordPath p j.id)) :=
      hd.rename (own_tempName j.id) (own_recordName j.id) hs ht
    dsimp only
    generalize d.rename (tempPath p j.id) (recordPath p j.id) = x at hmove ⊢
    generalize e.rename (tempPath p j.id) (recordPath p j.id) = y at hmove ⊢
    cases hmove with
    | ok _ => rfl
    | error hxy => rw [hxy]

theorem persist_answer (hr : t.root = s.root) (hf : t.failures = s.failures)
    (hd : Serve s.root s.disk t.disk) (hid : k.id = j.id) :
    (t.persist k).1 = (s.persist j).1 := by
  unfold persist
  rw [hr,hf]
  cases hroot : s.root with
  | none => rfl
  | some p =>
    have hp := hd p hroot
    cases s.failures with
    | nil => exact writeRecord_answer hp hid
    | cons f rest =>
      cases f with
      | none =>
        apply writeRecord_answer
        · exact hp
        · exact hid
      | some f => simp only [failWrite,hid]

theorem persist_serve (hr : t.root = s.root) (hf : t.failures = s.failures)
    (hd : Serve s.root s.disk t.disk) (hid : k.id = j.id) :
    (t.persist k).1 = (s.persist j).1 ∧
      Serve s.root (s.persist j).2.disk (t.persist k).2.disk := by
  refine ⟨persist_answer hr hf hd hid,fun p hp => ?_⟩
  have hboth := hd p hp
  have hs := persist_aside hboth.left hp j
  have ht := persist_aside hboth.right (hr.trans hp) k
  exact hs.symm.trans (hboth.trans ht)

end Writes

namespace Likeness

/-- Everything is looked at in a record. -/
def full : Likeness where
  seen j := j
  disks := Serve
  id _ := rfl
  type _ := rfl
  args _ := rfl
  dependencies _ := rfl
  status _ := rfl
  result _ := rfl
  change _ _ := rfl
  persist hr hf hd hj := persist_serve hr hf hd (congrArg Job.id hj)

end Likeness

end Store

end BuildFarm
