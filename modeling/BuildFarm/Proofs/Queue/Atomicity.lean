import BuildFarm.Proofs.Queue.Answers
import BuildFarm.Proofs.Queue.Lasting
import BuildFarm.Proofs.Queue.Tokens
import BuildFarm.Proofs.Store.LifeCycle

namespace BuildFarm

namespace Store

/-- Every record is one that a job can have. -/
def Coherent (s : Store) : Prop :=
  ∀ id j, s.find? id = some j → j.Coherent

theorem Coherent.keeps {s t : Store} (h : s.Coherent) (hk : s.Keeps t) : t.Coherent :=
  fun id j hj => h id j (hk id ▸ hj)

theorem Coherent.sets {s t : Store} {id : JobId} (h : s.Coherent) (hs : s.Sets t id j)
    (hj : j.Coherent) : t.Coherent := by
  intro i k hk
  rw [hs i] at hk
  split at hk
  · cases hk
    exact hj
  · exact h i k hk

end Store

namespace Queue

open Store

def Answer.error? : Answer → Option QueueError
  | .enqueued (.error e) | .claimed (.error e) | .described (.error e) | .told (.error e)
  | .done (.error e) | .flag (.error e) | .bound (.error e) => some e
  | _ => none

/-- A call has left everything as it was. Whatever is planned to fail from then on, and whatever is
asked, the answers are the same as if it had not been made. -/
structure Untouched (q p : Queue) : Prop where
  records : q.store.Keeps p.store
  claimable : ∀ f j, p.store.Eligible f j ↔ q.store.Eligible f j
  tokens : p.tokens = q.tokens
  again : ∀ outages failures run,
    p.transcript (.plan outages failures :: run) = q.transcript (.plan outages failures :: run)

/-- A job that could be claimed runs, no token stands for it, and nothing else has changed. -/
structure Strands (q p : Queue) (now : Instant) (id : JobId) : Prop where
  claimed : ∃ old, q.store.find? id = some old ∧ old.status = .pending ∧
    q.store.Sets p.store id (old.taken now)
  claimable : ∀ f j, p.store.Eligible f j ↔ q.store.Eligible f j ∧ j.id ≠ id
  tokens : p.tokens = q.tokens
  unbound : ∀ t, p.tokens.resolve t ≠ .ok id

/-- What there is to know of a queue after a run. -/
structure Intact (past : List Action) (es : List Event) (q : Queue) : Prop where
  regular : Regular q
  told : Told es q
  matched : Matched past es q
  coherent : q.store.Coherent
  exact : q.store.index.Exact
  serve : Serve q.store.root q.store.disk q.store.disk

theorem Effect.coherent {q p : Queue} (he : Effect q a es p) (h : q.store.Coherent) :
    p.store.Coherent := by
  have htaken {old : Job} {f : ClaimFilter} {now : Instant}
      (found : q.store.find? old.id = some old) (accepts : f.accepts old = true) :
      (old.taken now).Coherent :=
    (Job.Changed.taken (accepts_pending accepts)).coherent (h _ _ found)
  cases he with
  | idle keeps => exact h.keeps keeps
  | enqueued _ _ sets => exact h.sets sets (Job.make_coherent _ _ _ _ _)
  | claimed found accepts _ _ sets => exact h.sets sets (htaken found accepts)
  | unnamed found accepts _ sets => exact h.sets sets (htaken found accepts)
  | released found accepts sets =>
    exact h.sets sets ((Job.Changed.returned rfl).coherent (htaken found accepts))
  | stranded found accepts sets => exact h.sets sets (htaken found accepts)
  | concluded _ found running terminal sets =>
    exact h.sets sets ((Job.Changed.ended running terminal).coherent (h _ _ found))
  | lapsed _ _ _ keeps => exact h.keeps keeps
  | canceled found sets => exact h.sets sets (Job.Changed.canceled.coherent (h _ _ found))

theorem after_coherent {q : Queue} (hq : Regular q) (h : q.store.Coherent) (run : List Action) :
    (q.after run).store.Coherent :=
  effect_induction (P := fun _ _ p => p.store.Coherent) hq h
    (fun _ _ _ _ _ _ _ hp he => he.coherent hp) run

theorem intact {disk : Disk} (ordered : disk.Ordered) (root : Option Path) (run : List Action) :
    Intact run ((start disk root).history run) ((start disk root).after run) where
  regular := after_regular (start_regular disk root) run
  told := told disk root run
  matched := matched disk root run
  coherent := by
    apply after_coherent (start_regular disk root)
    intro id j hj
    cases hj
  exact := after_lasting exact_lasting (q := start disk root) Index.exact_empty run
  serve := by
    obtain ⟨hroot,hd⟩ := after_lasting (q := start disk root) (serve_lasting root disk)
      ⟨rfl,fun p _ => .refl ordered p⟩ run
    intro p hp
    exact .refl (hd p (hroot.symm.trans hp)).right p

theorem events_of_error {q : Queue} (h : (q.answer a).error? = some e) :
    ((∀ r draws f, a = .request r draws f → q.stranded? r f = none) ∧ q.events a = []) ∨
    ∃ r draws f id, a = .request r draws f ∧ q.stranded? r f = some id ∧
      q.events a = [.stranded id] := by
  cases a with
  | enqueue id now type args ds =>
    refine Or.inl ⟨by simp,?_⟩
    simp only [answer] at h
    simp only [events]
    cases hr : (q.enqueue id now type args ds).1 with
    | ok _ =>
      rw [hr] at h
      cases h
    | error _ => rfl
  | request r draws f =>
    simp only [answer] at h
    simp only [events]
    cases hr : (q.request r draws f).1 with
    | ok _ =>
      rw [hr] at h
      cases h
    | error _ =>
      cases hs : q.stranded? r f with
      | none =>
        refine Or.inl ⟨?_,rfl⟩
        rintro _ _ _ ⟨⟩
        exact hs
      | some id => exact Or.inr ⟨r,draws,f,id,rfl,hs,rfl⟩
  | conclude r token status result =>
    refine Or.inl ⟨by simp,?_⟩
    simp only [answer] at h
    simp only [events]
    cases hr : (q.conclude r token status result).1 with
    | ok _ =>
      rw [hr] at h
      cases h
    | error _ => cases q.liveClaim token <;> rfl
  | cancel id =>
    refine Or.inl ⟨by simp,?_⟩
    simp only [answer] at h
    simp only [events]
    cases hr : (q.cancel id).1 with
    | ok _ =>
      rw [hr] at h
      cases h
    | error _ => rfl
  | _ => exact Or.inl ⟨by simp,rfl⟩

namespace Intact

variable {past past' : List Action} {es es' : List Event} {q p : Queue} {a : Action}

/-- A claim that was given back has left the record as it was, since a job that waits has no trace
of an earlier claim. -/
theorem undone (h : Intact past es q) (he : Effect q a [] p)
    (free : ∀ r draws f, a = .request r draws f → ∃ t ∈ draws, q.tokens.isTaken t = false) :
    q.store.Keeps p.store ∧ p.tokens = q.tokens := by
  cases he with
  | idle keeps => exact ⟨keeps,rfl⟩
  | unnamed found accepts taken sets =>
    obtain ⟨t,ht,hf⟩ := free _ _ _ rfl
    exact absurd taken (Registry.issue?_free h.regular.sound ht hf _ _)
  | released found accepts sets =>
    rw [(h.coherent _ _ found).taken_returned (accepts_pending accepts)] at sets
    exact ⟨sets.keeps found,rfl⟩
  | lapsed live found running keeps =>
    exact absurd (h.matched.live live) (running_not_of found running)

/-- A job that waits has no token, neither a live one nor one of a claim that was concluded. -/
theorem unbound (h : Intact past es q) {id : JobId} {old : Job} (found : q.store.find? id = some old)
    (waits : old.status = .pending) (t : DispatchToken) : q.tokens.resolve t ≠ .ok id := by
  intro ht
  rcases Registry.resolve_ok ht with hl | hr
  · exact running_not_of found (by simp [waits]) (h.matched.live hl)
  · obtain ⟨status,result,now,hm⟩ := h.matched.retired hr
    obtain ⟨hs,r,hfound,rfl,_⟩ := h.told.ended hm
    rw [found] at hfound
    cases hfound
    rw [waits] at hs
    cases hs

theorem strands (h : Intact past es q) {id : JobId}
    (he : Effect q (.request r draws f) [.stranded id] p) : Strands q p r.now id := by
  cases he with
  | stranded found accepts sets =>
    have hw := accepts_pending accepts
    exact ⟨⟨_,found,hw,sets⟩,fun _ _ => eligible_after found hw sets,rfl,h.unbound found hw⟩

theorem untouched (h : Intact past es q) (hp : Intact past' es' p)
    (root : p.store.root = q.store.root) (disks : Serve q.store.root q.store.disk p.store.disk)
    (keeps : q.store.Keeps p.store) (tokens : p.tokens = q.tokens) : Untouched q p := by
  refine ⟨keeps,fun _ _ => keeps.eligible,tokens,?_⟩
  intro outages failures run
  have hfind (id : JobId) : p.store.index.find? id = q.store.index.find? id := keeps id
  have hpending : p.store.index.pending = q.store.index.pending :=
    h.exact.pending_eq hp.exact (fun id => congrArg _ (hfind id))
  have hlike : Like .full (q.step (.plan outages failures)) (p.step (.plan outages failures)) :=
    ⟨⟨root,rfl,rfl,disks,hpending,fun id => congrArg _ (hfind id)⟩,tokens⟩
  exact congrArg _ (transcript_full hlike run)

end Intact

/-- A call that is answered with an error, whatever has failed in it or in the run before, leaves all
records, what can be claimed and all tokens as they were, and a call that follows is answered as if
it had not been made. The exception is a request that has claimed a job, could not read the results
of its dependencies and could not release it either: that job alone then runs, without a token. As
tokens are drawn until there is one that is not taken, a request does not fail for want of one. -/
theorem errors_atomic {disk : Disk} (ordered : disk.Ordered) (root : Option Path)
    {run : List Action} {q : Queue} (reached : (start disk root).after run = q)
    (failed : (q.answer a).error? = some e)
    (free : ∀ r draws f, a = .request r draws f → ∃ t ∈ draws, q.tokens.isTaken t = false) :
    ((∀ r draws f, a = .request r draws f → q.stranded? r f = none) ∧ Untouched q (q.step a)) ∨
    ∃ r draws f id, a = .request r draws f ∧ q.stranded? r f = some id ∧
      Strands q (q.step a) r.now id := by
  have hq := intact ordered root run
  have hp := intact ordered root (run ++ [a])
  rw [after_append,reached] at hp
  rw [reached] at hq
  obtain ⟨hroot,_,he⟩ := step_effect hq.regular a
  rcases events_of_error failed with ⟨hs,hes⟩ | ⟨r,draws,f,id,rfl,hs,hes⟩
  · rw [hes] at he
    obtain ⟨hkeeps,htokens⟩ := hq.undone he free
    have hd := step_lasting (serve_lasting q.store.root q.store.disk) ⟨rfl,hq.serve⟩ a
    exact Or.inl ⟨hs,hq.untouched hp hroot hd.2 hkeeps htokens⟩
  · rw [hes] at he
    exact Or.inr ⟨r,draws,f,id,rfl,hs,hq.strands he⟩

namespace Sample

def dimmed (outages : List Outage) : List Action :=
  chained ++ [.plan outages []]

def dim (outages : List Outage) : Queue :=
  ⟨⟨.empty,none,⟨[(parent,built),(child,job child [parent])],[child]⟩,outages.map Outage.fault,[]⟩,
    (bound.retire 1 (ticket 1)).2⟩

theorem dimmed_after (outages : List Outage) :
    (start .empty none).after (dimmed outages) = dim outages := by
  rw [dimmed,after_append,chained_after]
  rfl

def unread : Outage := ⟨.get,"down",0⟩

def unwritten : Outage := ⟨.update,"down",0⟩

/-- Claims a job and finds that the result of a dependency cannot be read. The job is released
again, if that does not fail too. -/
def retried : Action :=
  .request (reading 2) [ticket 2] anyWork

theorem retried_free (outages : List Outage) : ∀ r draws f, retried = .request r draws f →
    ∃ t ∈ draws, (dim outages).tokens.isTaken t = false := by
  rintro _ _ _ ⟨⟩
  have hm := matched .empty none (dimmed outages)
  rw [dimmed_after] at hm
  have hdrawn : (dimmed outages).flatMap Action.draws = [ticket 1] := rfl
  refine ⟨_,List.mem_singleton_self _,hm.free ?_⟩
  rw [hdrawn]
  decide

theorem retried_failed (h : outages = [unread] ∨ outages = [unread,unwritten]) :
    ((dim outages).answer retried).error? = some (.store (.storage "down")) := by
  rcases h with rfl | rfl <;> rfl

theorem dim_released : (dim [unread]).stranded? (reading 2) anyWork = none := rfl

theorem dim_left : (dim [unread,unwritten]).stranded? (reading 2) anyWork = some child := rfl

end Sample

theorem errors_atomic_dimmed :
    Untouched (Sample.dim [Sample.unread]) ((Sample.dim [Sample.unread]).step Sample.retried) ∧
    Strands (Sample.dim [Sample.unread,Sample.unwritten])
      ((Sample.dim [Sample.unread,Sample.unwritten]).step Sample.retried) .epoch Sample.child := by
  constructor
  · rcases errors_atomic Disk.empty_ordered none (Sample.dimmed_after _)
      (Sample.retried_failed (Or.inl rfl)) (Sample.retried_free _) with ⟨_,h⟩ | ⟨_,_,_,_,⟨⟩,hs,_⟩
    · exact h
    · rw [Sample.dim_released] at hs
      cases hs
  · rcases errors_atomic Disk.empty_ordered none (Sample.dimmed_after _)
      (Sample.retried_failed (Or.inr rfl)) (Sample.retried_free _) with ⟨hs,_⟩ | ⟨_,_,_,_,⟨⟩,hs,h⟩
    · have hnone := hs _ _ _ rfl
      rw [Sample.dim_left] at hnone
      cases hnone
    · rw [Sample.dim_left] at hs
      cases hs
      exact h

end Queue

end BuildFarm
