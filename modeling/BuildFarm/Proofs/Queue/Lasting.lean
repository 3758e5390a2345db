import BuildFarm.Proofs.Queue.Effects
import BuildFarm.Proofs.Store.Run

namespace BuildFarm

namespace Queue

open Store

theorem checkAll_kept {P : Store → Prop} (hP : Kept P) {s : Store} (h : P s)
    (ds : List JobId) : P (checkAll s ds).2 := by
  induction ds generalizing s with
  | nil => exact h
  | cons d ds ih =>
    have hg := hP.get s d h
    unfold checkAll
    cases hr : s.get d with
    | mk r t =>
      rw [hr] at hg
      cases r with
      | ok j => exact ih hg
      | error e => cases e <;> exact hg

theorem results_kept {P : Store → Prop} (hP : Kept P) {s : Store} (h : P s)
    (read : List (JobId × Json)) (ds : List JobId) : P (results s read ds).2 := by
  induction ds generalizing s read with
  | nil => exact h
  | cons d ds ih =>
    have hg := hP.get s d h
    unfold results
    cases hr : s.get d with
    | mk r t =>
      rw [hr] at hg
      cases r with
      | ok j => exact ih hg _
      | error e => exact hg

theorem dynamicArgs_kept {P : Store → Prop} (hP : Kept P) {s : Store} (h : P s) (j : Job) :
    P (dynamicArgs s j).2 := by
  unfold dynamicArgs
  split
  · exact h
  · have hr := results_kept hP h [] j.dependencies
    cases hs : results s [] j.dependencies with
    | mk r t =>
      rw [hs] at hr
      cases r <;> exact hr

theorem enqueue_kept {P : Store → Prop} (hP : Kept P) {q : Queue} (h : P q.store)
    (id : JobId) (now : Instant) (type : JobType) (args : Json) (ds : List JobId) :
    P (q.enqueue id now type args ds).2.store := by
  have hc := checkAll_kept hP h ds.eraseDups
  simp only [enqueue]
  cases hs : checkAll q.store ds.eraseDups with
  | mk r s =>
    rw [hs] at hc
    cases r with
    | error e => exact hc
    | ok _ =>
      have hm := hP.create s (Job.make id type args ds.eraseDups now) hc
      dsimp only
      cases ht : s.create (Job.make id type args ds.eraseDups now) with
      | mk r t =>
        rw [ht] at hm
        cases r <;> exact hm

theorem request_kept {P : Store → Prop} (hP : Kept P) {q : Queue} (h : P q.store)
    (r : Reading) (draws : List DispatchToken) (f : ClaimFilter) :
    P (q.request r draws f).2.store := by
  have hn := hP.next q.store f r.now h
  unfold request
  cases hs : q.store.next f r.now with
  | mk x s =>
    rw [hs] at hn
    cases x with
    | error e => exact hn
    | ok j =>
      cases j with
      | none => exact hn
      | some j =>
        have hd := dynamicArgs_kept hP hn j
        dsimp only
        cases ht : dynamicArgs s j with
        | mk y t =>
          rw [ht] at hd
          cases y with
          | error e => exact hP.update t j.id [.release] hd
          | ok extra =>
            dsimp only
            cases q.tokens.issue? r.uptime draws j.id with
            | none => exact hd
            | some p => exact hd

theorem conclude_kept {P : Store → Prop} (hP : Kept P) {q : Queue} (h : P q.store)
    (r : Reading) (token : DispatchToken) (status : Option JobStatus) (result : Option Json) :
    P (q.conclude r token status result).2.store := by
  unfold conclude
  cases q.tokens.resolveLive token with
  | error e => exact h
  | ok id =>
    dsimp only
    split
    · have hu := hP.update q.store id [.conclude (status.getD .finished) result r.now] h
      cases hs : q.store.update id [.conclude (status.getD .finished) result r.now] with
      | mk x t =>
        rw [hs] at hu
        cases x with
        | ok _ => exact hu
        | error e => cases e <;> exact hu
    · exact h

theorem cancel_kept {P : Store → Prop} (hP : Kept P) {q : Queue} (h : P q.store)
    (id : JobId) : P (q.cancel id).2.store := by
  have hu := hP.update q.store id [.cancel] h
  unfold cancel
  cases hs : q.store.update id [.cancel] with
  | mk x t =>
    rw [hs] at hu
    cases x <;> exact hu

/-- A call of the queue does nothing to the store but call it. -/
theorem step_kept {P : Store → Prop} (hP : Kept P) {q : Queue} (h : P q.store) (a : Action)
    (ha : ∀ os fs, a ≠ .plan os fs) : P (q.step a).store := by
  cases a with
  | enqueue id now type args ds => exact enqueue_kept hP h id now type args ds
  | request r draws f => exact request_kept hP h r draws f
  | describe id =>
    rw [step,describe_step]
    exact hP.get q.store id h
  | info id =>
    rw [step,info_step]
    exact hP.get q.store id h
  | conclude r token status result => exact conclude_kept hP h r token status result
  | cancel id => exact cancel_kept hP h id
  | isCanceled token =>
    rcases isCanceled_step q token with hs | ⟨id,hs⟩
    · rw [step,hs]
      exact h
    · rw [step,hs]
      exact hP.get q.store id h
  | liveClaim token => exact h
  | plan outages failures => exact absurd rfl (ha outages failures)

theorem step_lasting {P : Store → Prop} (hP : Lasting P) {q : Queue} (h : P q.store)
    (a : Action) : P (q.step a).store := by
  by_cases ha : ∀ os fs, a ≠ .plan os fs
  · exact step_kept hP.kept h a ha
  · push Not at ha
    obtain ⟨outages,failures,rfl⟩ := ha
    exact hP.plan q.store _ failures h

theorem after_lasting {P : Store → Prop} (hP : Lasting P) {q : Queue} (h : P q.store)
    (run : List Action) : P (q.after run).store :=
  run_induction (P := fun _ _ p => P p.store) h (fun _ _ _ a hp => step_lasting hP hp a) run

end Queue

end BuildFarm
