import BuildFarm.Proofs.Job.Changes
import Mathlib.Logic.Relation

namespace BuildFarm

/-- The steps of a life. -/
inductive JobStatus.Step : JobStatus → JobStatus → Prop
  | claim : Step .pending .running
  | release : Step .running .pending
  | finish : Step .running .finished
  | fail : Step .running .failed

/-- From one status to another in any number of steps. -/
abbrev JobStatus.Leads : JobStatus → JobStatus → Prop :=
  Relation.ReflTransGen Step

namespace JobStatus

theorem Step.live {s t : JobStatus} (h : Step s t) : s.isTerminal = false := by
  cases h <;> rfl

theorem step_ended {t : JobStatus} (h : t.isTerminal = true) : Step .running t := by
  cases t with
  | pending => cases h
  | running => cases h
  | finished => exact .finish
  | failed => exact .fail

/-- Nothing comes after the end. -/
theorem Leads.ended {s t : JobStatus} (h : s.Leads t) (hs : s.isTerminal = true) : t = s := by
  cases h.cases_head with
  | inl h => exact h.symm
  | inr h =>
    obtain ⟨u,hu,_⟩ := h
    rw [hu.live] at hs
    cases hs

end JobStatus

namespace Job

/-- What a record says of its job fits its status. -/
structure Coherent (j : Job) : Prop where
  pending : j.status = .pending → j.started = none ∧ j.finished = none ∧ j.result = none
  running : j.status = .running → j.started.isSome ∧ j.finished = none ∧ j.result = none
  ended : j.status.isTerminal = true → j.started.isSome ∧ j.finished.isSome

/-- What a later record of a job has in common with an earlier one. -/
structure Evolves (j k : Job) : Prop where
  id : k.id = j.id
  type : k.type = j.type
  args : k.args = j.args
  dependencies : k.dependencies = j.dependencies
  queued : k.queued = j.queued
  canceled : j.canceled = true → k.canceled = true
  status : j.status.Leads k.status
  ended : j.status.isTerminal = true →
    k.status = j.status ∧ k.result = j.result ∧ k.started = j.started ∧ k.finished = j.finished

variable {j k l : Job}

namespace Evolves

theorem refl (j : Job) : j.Evolves j :=
  ⟨rfl,rfl,rfl,rfl,rfl,fun h => h,.refl,fun _ => ⟨rfl,rfl,rfl,rfl⟩⟩

theorem trans (h : j.Evolves k) (g : k.Evolves l) : j.Evolves l where
  id := g.id.trans h.id
  type := g.type.trans h.type
  args := g.args.trans h.args
  dependencies := g.dependencies.trans h.dependencies
  queued := g.queued.trans h.queued
  canceled hc := g.canceled (h.canceled hc)
  status := h.status.trans g.status
  ended ht := by
    obtain ⟨hs,hr,hb,hf⟩ := h.ended ht
    obtain ⟨gs,gr,gb,gf⟩ := g.ended (hs ▸ ht)
    exact ⟨gs.trans hs,gr.trans hr,gb.trans hb,gf.trans hf⟩

/-- A step that leaves alone what was fixed when the job was put in. -/
theorem of_step (hs : JobStatus.Step j.status k.status)
    (h : k.id = j.id ∧ k.type = j.type ∧ k.args = j.args ∧ k.dependencies = j.dependencies ∧
      k.queued = j.queued ∧ k.canceled = j.canceled) : j.Evolves k := by
  obtain ⟨hid,htype,hargs,hd,hq,hc⟩ := h
  refine ⟨hid,htype,hargs,hd,hq,fun h => hc.trans h,.single hs,?_⟩
  intro ht
  rw [hs.live] at ht
  cases ht

end Evolves

namespace Changed

theorem evolves (h : Changed j c k) : j.Evolves k := by
  cases h with
  | taken waits =>
    have hs : JobStatus.Step j.status .running := waits ▸ .claim
    exact .of_step hs ⟨rfl,rfl,rfl,rfl,rfl,rfl⟩
  | returned runs =>
    have hs : JobStatus.Step j.status .pending := runs ▸ .release
    exact .of_step hs ⟨rfl,rfl,rfl,rfl,rfl,rfl⟩
  | @ended _ status _ runs terminal =>
    have hs : JobStatus.Step j.status status := runs ▸ JobStatus.step_ended terminal
    exact .of_step hs ⟨rfl,rfl,rfl,rfl,rfl,rfl⟩
  | canceled => exact ⟨rfl,rfl,rfl,rfl,rfl,fun _ => rfl,.refl,fun _ => ⟨rfl,rfl,rfl,rfl⟩⟩

/-- A release clears what the claim has set, and there is nothing else to clear: a running job has
no result yet and no end. -/
theorem coherent (h : Changed j c k) (hj : j.Coherent) : k.Coherent := by
  cases h with
  | taken waits =>
    obtain ⟨_,hf,hr⟩ := hj.pending waits
    exact ⟨nofun,fun _ => ⟨rfl,hf,hr⟩,nofun⟩
  | returned runs =>
    obtain ⟨_,hf,hr⟩ := hj.running runs
    exact ⟨fun _ => ⟨rfl,hf,hr⟩,nofun,nofun⟩
  | @ended now status result runs terminal =>
    obtain ⟨hb,_,_⟩ := hj.running runs
    refine ⟨?_,?_,fun _ => ⟨hb,rfl⟩⟩
    · rintro (rfl : status = .pending)
      cases terminal
    · rintro (rfl : status = .running)
      cases terminal
  | canceled => exact ⟨hj.pending,hj.running,hj.ended⟩

end Changed

theorem make_coherent (id : JobId) (type : JobType) (args : Json) (ds : List JobId)
    (now : Instant) : (make id type args ds now).Coherent :=
  ⟨fun _ => ⟨rfl,rfl,rfl⟩,nofun,nofun⟩

/-- Of the changes of an update each begins with what the one before it has left. -/
theorem changeAll_evolves (h : j.changeAll cs = .ok k) :
    j.Evolves k ∧ (j.Coherent → k.Coherent) := by
  refine changeAll_induction (P := fun l => j.Evolves l ∧ (j.Coherent → l.Coherent)) h
    ⟨.refl _,fun hj => hj⟩ ?_
  rintro i l c _ hc ⟨he,hk⟩
  exact ⟨he.trans hc.evolves,fun hj => hc.coherent (hk hj)⟩

/-- A claim that is given back leaves no trace. -/
theorem Coherent.taken_returned (h : j.Coherent) (hw : j.status = .pending) (now : Instant) :
    (j.taken now).returned = j := by
  obtain ⟨hs,_,_⟩ := h.pending hw
  obtain ⟨_,_,_,_,_,_,_,_,_,_⟩ := j
  simp only at hs hw
  subst hs hw
  rfl

end Job

end BuildFarm
