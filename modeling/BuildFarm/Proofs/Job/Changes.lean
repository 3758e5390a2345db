import BuildFarm.Job.Record
import BuildFarm.Proofs.Outcome

namespace BuildFarm

namespace Job

/-- The record of a claimed job. -/
def taken (j : Job) (now : Instant) : Job :=
  { j with status := .running, started := some now }

/-- The record of a job whose claim was given back. -/
def returned (j : Job) : Job :=
  { j with status := .pending, started := none }

/-- The record of a job that came to an end. -/
def ended (j : Job) (status : JobStatus) (result : Option Json) (now : Instant) : Job :=
  { j with status := status, result := result, finished := some now }

@[simp] theorem taken_id (j : Job) (now : Instant) : (j.taken now).id = j.id := rfl

@[simp] theorem taken_type (j : Job) (now : Instant) : (j.taken now).type = j.type := rfl

@[simp] theorem taken_args (j : Job) (now : Instant) : (j.taken now).args = j.args := rfl

@[simp] theorem taken_dependencies (j : Job) (now : Instant) :
    (j.taken now).dependencies = j.dependencies := rfl

@[simp] theorem taken_result (j : Job) (now : Instant) : (j.taken now).result = j.result := rfl

/-- The record after a change that can be made to it. -/
def applied (j : Job) : Change → Job
  | .markRunning now => j.taken now
  | .release => j.returned
  | .conclude status result now => j.ended status result now
  | .cancel => j.cancel

/-- How a change is refused to a record of the status, if it is. -/
def Change.refusal? : Change → JobStatus → Option StoreError
  | .markRunning _,s => if s = .pending then none else some (.invalidTransition s .running)
  | .release,s => if s = .running then none else some (.invalidTransition s .pending)
  | .conclude t _ _,s =>
    if s = .running ∧ t.isTerminal then none else some (.invalidTransition s t)
  | .cancel,_ => none

theorem change_eq (j : Job) (c : Change) : j.change c =
    match c.refusal? j.status with
    | some e => .error e
    | none => .ok (j.applied c) := by
  cases c with
  | markRunning now =>
    simp only [change,markRunning,Change.refusal?]
    split <;> rfl
  | release =>
    simp only [change,release,Change.refusal?]
    split <;> rfl
  | conclude status result now =>
    simp only [change,conclude,Change.refusal?]
    split <;> rfl
  | cancel => rfl

/-- What is seen of a record after a change depends on its status and on what would be seen. -/
theorem change_congr {j k : Job} {c : Change} {f g : Job → α} (hs : k.status = j.status)
    (h : f (k.applied c) = g (j.applied c)) : (k.change c).map f = (j.change c).map g := by
  rw [change_eq,change_eq,hs]
  cases c.refusal? j.status with
  | none => exact congrArg Except.ok h
  | some e => rfl

/-- What a change makes of a record. -/
inductive Changed (j : Job) : Change → Job → Prop
  | taken (waits : j.status = .pending) : Changed j (.markRunning now) (j.taken now)
  | returned (runs : j.status = .running) : Changed j .release j.returned
  | ended {status : JobStatus} {result : Option Json} (runs : j.status = .running)
    (terminal : status.isTerminal = true) :
    Changed j (.conclude status result now) (j.ended status result now)
  | canceled : Changed j .cancel j.cancel

variable {j k : Job} {cs : List Change}

theorem changed_of_change (h : j.change c = .ok k) : Changed j c k := by
  cases c with
  | markRunning now =>
    simp only [change,markRunning] at h
    split at h <;> cases h
    exact .taken ‹_›
  | release =>
    simp only [change,release] at h
    split at h <;> cases h
    exact .returned ‹_›
  | conclude status result now =>
    simp only [change,conclude] at h
    split at h
    · rename_i hs
      cases h
      exact .ended hs.1 hs.2
    · cases h
  | cancel =>
    cases h
    exact .canceled

theorem markRunning_ok (h : j.status = .pending) : j.markRunning now = .ok (j.taken now) := by
  simp [markRunning,taken,h]

theorem conclude_cases (j : Job) {status : JobStatus} (result : Option Json) (now : Instant)
    (ht : status.isTerminal = true) :
    (j.status = .running ∧ j.conclude status result now = .ok (j.ended status result now)) ∨
    (j.status ≠ .running ∧
      j.conclude status result now = .error (.invalidTransition j.status status)) := by
  by_cases h : j.status = .running
  · exact Or.inl ⟨h,by simp [conclude,ended,h,ht]⟩
  · exact Or.inr ⟨h,by simp [conclude,h]⟩

@[simp] theorem changeAll_singleton (j : Job) (c : Change) : j.changeAll [c] = j.change c := by
  cases h : j.change c <;> simp [changeAll,h,bind,Except.bind]

/-- What each of the changes keeps is kept by all of them. -/
theorem changeAll_induction {P : Job → Prop} (h : j.changeAll cs = .ok k) (start : P j)
    (step : ∀ i l, ∀ c ∈ cs, Changed i c l → P i → P l) : P k := by
  induction cs generalizing j with
  | nil =>
    cases h
    exact start
  | cons c cs ih =>
    obtain ⟨l,hl,h⟩ := ok_of_bind h
    exact ih h (step j l c List.mem_cons_self (changed_of_change hl) start)
      (fun i l d hd => step i l d (List.mem_cons_of_mem c hd))

/-- The id is among the fields that no change touches. -/
theorem changeAll_id (h : j.changeAll cs = .ok k) : k.id = j.id := by
  refine changeAll_induction (P := fun l => l.id = j.id) h rfl ?_
  rintro i l c _ ⟨⟩ hi <;> exact hi

theorem changeAll_dependencies (h : j.changeAll cs = .ok k) : k.dependencies = j.dependencies := by
  refine changeAll_induction (P := fun l => l.dependencies = j.dependencies) h rfl ?_
  rintro i l c _ ⟨⟩ hi <;> exact hi

end Job

end BuildFarm
