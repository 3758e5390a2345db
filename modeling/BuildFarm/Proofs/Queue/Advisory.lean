import BuildFarm.Proofs.Queue.Answers
import BuildFarm.Proofs.Queue.Lasting

namespace BuildFarm

namespace Job

/-- The record as it would be if nobody had canceled the job. -/
def unflagged (j : Job) : Job :=
  { j with canceled := false }

theorem change_unflagged (j : Job) (c : Change) :
    (j.unflagged.change c).map unflagged = (j.change c).map unflagged :=
  change_congr rfl (by cases c <;> rfl)

end Job

namespace Store

/-- Everything is looked at in a record but the flag. -/
def Likeness.unflagged : Likeness where
  seen := Job.unflagged
  disks := Serve
  id _ := rfl
  type _ := rfl
  args _ := rfl
  dependencies _ := rfl
  status _ := rfl
  result _ := rfl
  change := Job.change_unflagged
  persist hr hf hd hj := persist_serve hr hf hd (congrArg Job.id hj :)

/-- No call is to fail. -/
structure Calm (s : Store) : Prop where
  faults : s.faults = []
  failures : s.failures = []

theorem Calm.persist {s : Store} (h : s.Calm) (j : Job) : (s.persist j).2.Calm := by
  refine ⟨(persist_alike s j).faults.trans h.faults,?_⟩
  rw [persist_failures,h.failures]
  simp

theorem calm_kept : Kept Calm := by
  refine .of_persist ?_ (fun _ j h => h.persist j) (fun _ _ _ _ h => ⟨h.faults,h.failures⟩)
  intro s call h
  exact ⟨by rw [h.faults]; rfl,h.failures⟩

theorem replace_canceled {ix iy : Index} {id : JobId} {old : Job}
    (h : ix.Like .unflagged iy) (found : ix.find? id = some old) :
    (ix.replace id old old.cancel).Like .unflagged iy where
  pending := by
    rw [h.pending]
    simp [Index.replace,Job.cancel]
  records i := by
    rw [h.records i,Index.find?_replace]
    split
    · rename_i he
      rw [← he,found]
      rfl
    · rfl

/-- Whether its record can be written or not, a job that is canceled looks as it did before. -/
theorem Like.canceled {s t : Store} (h : Like .unflagged s t) (calm : s.Calm) (id : JobId) :
    Like .unflagged (s.update id [.cancel]).2 t := by
  rw [Store.update,guarded_faultless calm.faults,updateRecord_eq]
  split
  · exact h
  · rename_i old found
    have hcalm := calm.persist old.cancel
    have ha := persist_alike s old.cancel
    have hd : Serve s.root (s.persist old.cancel).2.disk t.disk := fun p hp =>
      (persist_aside (h.disks p hp).left hp old.cancel).symm.trans (h.disks p hp)
    have hcommon {ix : Index} (hx : ix.Like .unflagged t.index) :
        Like .unflagged { (s.persist old.cancel).2 with index := ix } t :=
      ⟨h.root.trans ha.root.symm,h.faults.trans ha.faults.symm,
        (h.failures.trans calm.failures).trans hcalm.failures.symm,ha.root.symm ▸ hd,hx⟩
    simp only [Job.changeAll,Job.change,bind,Except.bind]
    obtain ⟨e,u,hp,hr⟩ | ⟨u,hp,hr⟩ := entered_cases s old.cancel old.cancel
      (·.replace id old old.cancel) <;> rw [hr] <;> rw [hp] at hcommon
    · exact hcommon (persist_index hp ▸ h.index)
    · exact hcommon (replace_canceled h.index found)

end Store

namespace Queue

open Store

/-- What is left of an answer where the flag may not be told. -/
def Answer.masked : Answer → Answer
  | .told (.ok i) => .told (.ok { i with canceled := false })
  | .flag (.ok _) => .flag (.ok false)
  | a => a

theorem Answer.Like.masked {a b : Answer} (h : a.Like .unflagged b) : b.masked = a.masked := by
  cases h with
  | same => rfl
  | @told k j h =>
    have hi : JobInfo.of k.unflagged = JobInfo.of j.unflagged := congrArg JobInfo.of h
    exact congrArg (fun i => Answer.told (.ok i)) hi
  | flag h => rfl

end Queue

def Action.isCancel : Action → Bool
  | .cancel _ => true
  | _ => false

namespace Queue

open Store

theorem Like.canceled {q p : Queue} (h : Like .unflagged q p) (calm : q.store.Calm) (id : JobId) :
    Like .unflagged (q.step (.cancel id)) p := by
  have hs := h.store.canceled calm id
  simp only [step,Queue.cancel]
  generalize q.store.update id [.cancel] = x at hs ⊢
  obtain ⟨r,s⟩ := x
  cases r <;> exact ⟨hs,h.tokens⟩

/-- The calls of a run that do not cancel, with what is answered to them but for the flag. -/
def advised (q : Queue) (run : List Action) : List (Action × Answer) :=
  ((q.transcript run).filter (fun x => !x.1.isCancel)).map (fun x => (x.1,x.2.masked))

theorem advised_like {q p : Queue} (h : Like .unflagged q p) (calm : q.store.Calm)
    {run : List Action} (calls : ∀ a ∈ run, ∀ os fs, a ≠ .plan os fs) :
    p.advised (run.filter (fun a => !a.isCancel)) = q.advised run ∧
      Like .unflagged (q.after run) (p.after (run.filter (fun a => !a.isCancel))) := by
  induction run generalizing q p with
  | nil => exact ⟨rfl,h⟩
  | cons a run ih =>
    rw [List.forall_mem_cons] at calls
    have hcalm : (q.step a).store.Calm := step_kept calm_kept calm a calls.1
    by_cases hc : a.isCancel = true
    · obtain ⟨id,rfl⟩ : ∃ id, a = .cancel id := by
        cases a <;> first | exact ⟨_,rfl⟩ | cases hc
      obtain ⟨ha,hq⟩ := ih (h.canceled calm id) hcalm calls.2
      rw [List.filter_cons_of_neg (by simp [Action.isCancel])]
      refine ⟨?_,hq⟩
      rw [ha]
      simp [advised,transcript,Action.isCancel]
    · obtain ⟨hl,hs⟩ := step_like h a
      obtain ⟨ha,hq⟩ := ih hs hcalm calls.2
      rw [List.filter_cons_of_pos (by simp [hc])]
      refine ⟨?_,hq⟩
      simp only [advised,transcript] at ha ⊢
      rw [List.filter_cons_of_pos (by simp [hc]),List.filter_cons_of_pos (by simp [hc]),
        List.map_cons,List.map_cons,ha,hl.masked]

/-- Without the calls that cancel, a run in which no call of the store and no write is made to fail
goes as with them: every other call gives the same answer but for the flag, and what is left at the
end differs in the flags of the records alone. -/
theorem cancellation_advisory {q : Queue} (ordered : q.store.disk.Ordered) (calm : q.store.Calm)
    {run : List Action} (calls : ∀ a ∈ run, ∀ os fs, a ≠ .plan os fs) :
    q.advised (run.filter (fun a => !a.isCancel)) = q.advised run ∧
      Like .unflagged (q.after run) (q.after (run.filter (fun a => !a.isCancel))) := by
  have hself : Like .unflagged q q :=
    ⟨⟨rfl,rfl,rfl,fun p _ => .refl ordered p,rfl,fun _ => rfl⟩,rfl⟩
  exact advised_like hself calm calls

namespace Sample

/-- A job is canceled before it is claimed. -/
def warned : List Action :=
  [.enqueue parent .epoch ⟨"build","x86"⟩ .null [],.cancel parent,
   .request (reading 0) [ticket 1] anyWork]

def flagged : Queue :=
  (start .empty none).after (warned.take 2)

theorem flagged_found : (flagged.store.find? parent).map Job.canceled = some true := by
  decide +kernel

end Sample

theorem cancellation_advisory_warned :
    (Sample.flagged.store.find? Sample.parent).map Job.canceled = some true ∧
    (start .empty none).advised Sample.claimed = (start .empty none).advised Sample.warned := by
  have calls : ∀ a ∈ Sample.warned, ∀ os fs, a ≠ .plan os fs := by simp [Sample.warned]
  have h := cancellation_advisory (q := start .empty none) Disk.empty_ordered ⟨rfl,rfl⟩ calls
  exact ⟨Sample.flagged_found,h.1⟩

end Queue

end BuildFarm
