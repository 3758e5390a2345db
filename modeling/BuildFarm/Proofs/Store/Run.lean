import BuildFarm.Proofs.Store.Effects
import Mathlib.Data.List.Induction

namespace BuildFarm

namespace Store

/-- What every call of a store keeps. -/
structure Kept (P : Store → Prop) : Prop where
  create : ∀ s j, P s → P (s.create j).2
  get : ∀ s id, P s → P (s.get id).2
  update : ∀ s id changes, P s → P (s.update id changes).2
  next : ∀ s f now, P s → P (s.next f now).2

/-- What every call of a store keeps, whatever faults are planned. -/
structure Lasting (P : Store → Prop) : Prop where
  create : ∀ s j, P s → P (s.create j).2
  get : ∀ s id, P s → P (s.get id).2
  update : ∀ s id changes, P s → P (s.update id changes).2
  next : ∀ s f now, P s → P (s.next f now).2
  plan : ∀ s faults failures, P s → P { s with faults := faults, failures := failures }

inductive Operation
  | create (j : Job)
  | get (id : JobId)
  | update (id : JobId) (changes : List Job.Change)
  | next (f : ClaimFilter) (now : Instant)

/-- What an operation gives where it does not fail. -/
inductive Answer
  | created
  | record (j : Job)
  | claim (j : Option Job)

/-- An operation, and the failure of the write that it makes, if it is to fail. -/
structure Step where
  operation : Operation
  failure : Option WriteFailure

def answered (wrap : α → Answer) (r : Except StoreError α × Store) :
    Except StoreError Answer × Store :=
  (r.1.map wrap,r.2)

def perform (s : Store) : Operation → Except StoreError Answer × Store
  | .create j => answered (fun _ => .created) (s.create j)
  | .get id => answered .record (s.get id)
  | .update id changes => answered .record (s.update id changes)
  | .next f now => answered .claim (s.next f now)

def take (s : Store) (x : Step) : Except StoreError Answer × Store :=
  { s with failures := [x.failure] }.perform x.operation

/-- The store at the end of a run. -/
def after (s : Store) : List Step → Store
  | [] => s
  | x :: run => (s.take x).2.after run

def answers (s : Store) : List Step → List (Except StoreError Answer)
  | [] => []
  | x :: run => (s.take x).1 :: (s.take x).2.answers run

@[simp] theorem after_append (s : Store) (xs ys : List Step) :
    s.after (xs ++ ys) = (s.after xs).after ys := by
  induction xs generalizing s with
  | nil => rfl
  | cons x xs ih => exact ih (s.take x).2

/-- What holds at the start and is kept by each step holds after every run. -/
theorem run_induction {s : Store} {P : List Step → Store → Prop} (start : P [] s)
    (next : ∀ past t x, P past t → P (past ++ [x]) (t.take x).2) (run : List Step) :
    P run (s.after run) := by
  induction run using List.reverseRecOn with
  | nil => exact start
  | append_singleton past x ih =>
    have h := next _ _ x ih
    simpa [after] using h

/-- What an operation can come to, whatever faults and failures are planned: what it answers, and
what the records and the ids that wait are then. -/
inductive Outcome (s : Store) : Operation → Except StoreError Answer → Index → Prop
  | failed (e : StoreError) : Outcome s o (.error e) s.index
  | created (fresh : s.find? j.id = none) : Outcome s (.create j) (.ok .created) (s.index.load j)
  | got {id : JobId} (found : s.find? id = some j) : Outcome s (.get id) (.ok (.record j)) s.index
  | updated {id : JobId} (found : s.find? id = some old)
    (changed : old.changeAll changes = .ok new) :
    Outcome s (.update id changes) (.ok (.record new)) (s.index.replace id old new)
  | idle : Outcome s (.next f now) (.ok (.claim none)) s.index
  | claimed {id : JobId} (chosen : s.candidate? f = some (id,old)) :
    Outcome s (.next f now) (.ok (.claim (some (old.taken now))))
      (s.index.replace id old (old.taken now))

/-- What comes of a call as planned is a failure; so it is enough to know what comes of it where
no fault is in its way. -/
theorem guarded_outcome {s : Store} {o : Operation} {run : Store → Except StoreError α × Store}
    {wrap : α → Answer} (h : ∀ fs, Outcome s o ((run { s with faults := fs }).1.map wrap)
      (run { s with faults := fs }).2.index) :
    Outcome s o ((s.guarded call run).1.map wrap) (s.guarded call run).2.index := by
  unfold guarded
  split
  · exact .failed _
  · exact h _

theorem entered_outcome {s : Store} {o : Operation} {wrap : α → Answer} {next : Index → Index}
    {fs : List PlannedFault} (h : Outcome s o (.ok (wrap a)) (next s.index)) :
    Outcome s o ((({ s with faults := fs } : Store).entered j a next).1.map wrap)
      (({ s with faults := fs } : Store).entered j a next).2.index := by
  obtain ⟨e,t,hp,he⟩ | ⟨t,hp,he⟩ := entered_cases { s with faults := fs } j a next <;> rw [he]
  · exact persist_index hp ▸ .failed e
  · exact h

theorem create_outcome (s : Store) (j : Job) :
    Outcome s (.create j) ((s.create j).1.map fun _ => .created) (s.create j).2.index := by
  apply guarded_outcome
  intro fs
  rw [createRecord_eq]
  split
  · exact .failed _
  · rename_i hn
    exact entered_outcome (.created (by simpa [find?] using hn))

theorem get_outcome (s : Store) (id : JobId) :
    Outcome s (.get id) ((s.get id).1.map .record) (s.get id).2.index := by
  apply guarded_outcome
  intro fs
  unfold getRecord
  split
  · rename_i hj
    exact .got hj
  · exact .failed _

theorem update_outcome (s : Store) (id : JobId) (changes : List Job.Change) :
    Outcome s (.update id changes) ((s.update id changes).1.map .record)
      (s.update id changes).2.index := by
  apply guarded_outcome
  intro fs
  rw [updateRecord_eq]
  split
  · exact .failed _
  · rename_i old hold
    split
    · exact .failed _
    · rename_i new hc
      exact entered_outcome (.updated hold hc)

theorem next_outcome (s : Store) (f : ClaimFilter) (now : Instant) :
    Outcome s (.next f now) ((s.next f now).1.map .claim) (s.next f now).2.index := by
  apply guarded_outcome
  intro fs
  rw [claim_eq]
  split
  · exact .idle
  · rename_i id old hc
    exact entered_outcome (.claimed hc)

theorem perform_outcome (s : Store) (o : Operation) :
    Outcome s o (s.perform o).1 (s.perform o).2.index := by
  cases o with
  | create j => exact create_outcome s j
  | get id => exact get_outcome s id
  | update id changes => exact update_outcome s id changes
  | next f now => exact next_outcome s f now

theorem take_outcome (s : Store) (x : Step) :
    Outcome s x.operation (s.take x).1 (s.take x).2.index := by
  obtain ⟨o,failure⟩ := x
  have h := perform_outcome { s with failures := [failure] } o
  unfold take
  generalize ({ s with failures := [failure] } : Store).perform o = p at h ⊢
  obtain ⟨r,t⟩ := p
  dsimp only at h ⊢
  generalize t.index = ix at h ⊢
  cases h with
  | failed e => exact .failed e
  | created fresh => exact .created fresh
  | got found => exact .got found
  | updated found changed => exact .updated found changed
  | idle => exact .idle
  | claimed chosen => exact .claimed chosen

section Kept

variable {P : Store → Prop}

theorem guarded_kept {run : Store → Except StoreError α × Store} {s : Store}
    (fault : ∀ s call, P s → P { s with faults := (strike call s.faults).2 })
    (h : P s) (hr : ∀ s, P s → P (run s).2) : P (s.guarded call run).2 := by
  have hf := fault s call h
  unfold guarded
  cases hs : strike call s.faults with
  | mk e fs =>
    rw [hs] at hf
    cases e with
    | none => exact hr _ hf
    | some e => exact hf

theorem entered_kept {s : Store} {next : Index → Index} (write : P (s.persist j).2)
    (enter : ∀ t, P t → P { t with index := next t.index }) : P (s.entered j a next).2 := by
  obtain ⟨e,t,hp,he⟩ | ⟨t,hp,he⟩ := entered_cases s j a next <;> rw [he] <;> rw [hp] at write
  · exact write
  · exact persist_index hp ▸ enter t write

/-- What is kept where a record is written, and where it is entered under some id, is kept by every
call. -/
theorem Kept.of_persist (fault : ∀ s call, P s → P { s with faults := (strike call s.faults).2 })
    (persist : ∀ s j, P s → P (s.persist j).2)
    (enter : ∀ s id j ids, P s → P { s with index := ⟨Table.insert s.index.records id j,ids⟩ }) :
    Kept P where
  create s j h := by
    refine guarded_kept fault h ?_
    intro s h
    rw [createRecord_eq]
    split
    · exact h
    · exact entered_kept (persist s _ h) (fun t => enter t _ _ _)
  get s id h := by
    refine guarded_kept fault h ?_
    intro s h
    unfold getRecord
    split <;> exact h
  update s id changes h := by
    refine guarded_kept fault h ?_
    intro s h
    rw [updateRecord_eq]
    split
    · exact h
    · split
      · exact h
      · exact entered_kept (persist s _ h) (fun t => enter t _ _ _)
  next s f now h := by
    refine guarded_kept fault h ?_
    intro s h
    rw [claim_eq]
    split
    · exact h
    · exact entered_kept (persist s _ h) (fun t => enter t _ _ _)

end Kept

theorem take_follows {s : Store} (hf : s.faults = []) (x : Step) : Follows s (s.take x).2 := by
  have ho := outages_of_faultless (s := { s with failures := [x.failure] }) hf
  unfold take
  cases x.operation with
  | create j => exact ⟨(create_cases ho rfl).1.root,(create_cases ho rfl).1.faults⟩
  | get id => exact ⟨(get_cases ho rfl).1.root,(get_cases ho rfl).1.faults⟩
  | update id changes => exact ⟨(update_cases ho rfl).1.root,(update_cases ho rfl).1.faults⟩
  | next f now => exact ⟨(next_cases ho rfl).1.root,(next_cases ho rfl).1.faults⟩

theorem after_follows {s : Store} (hf : s.faults = []) (run : List Step) : Follows s (s.after run) :=
  run_induction (P := fun _ t => Follows s t) (Follows.refl s)
    (fun _ _ x ht => ht.trans (take_follows (ht.faultless hf) x)) run

namespace Lasting

variable {P : Store → Prop}

theorem kept (hP : Lasting P) : Kept P :=
  ⟨hP.create,hP.get,hP.update,hP.next⟩

theorem of_kept (hP : Kept P)
    (plan : ∀ s faults failures, P s → P { s with faults := faults, failures := failures }) :
    Lasting P :=
  ⟨hP.create,hP.get,hP.update,hP.next,plan⟩

theorem take (hP : Lasting P) {s : Store} (h : P s) (x : Step) : P (s.take x).2 := by
  have hx := hP.plan s s.faults [x.failure] h
  unfold Store.take
  cases x.operation with
  | create j => exact hP.create _ j hx
  | get id => exact hP.get _ id hx
  | update id changes => exact hP.update _ id changes hx
  | next f now => exact hP.next _ f now hx

theorem after (hP : Lasting P) {s : Store} (h : P s) (run : List Step) : P (s.after run) :=
  run_induction (P := fun _ t => P t) h (fun _ _ x ht => hP.take ht x) run

end Lasting

end Store

end BuildFarm
