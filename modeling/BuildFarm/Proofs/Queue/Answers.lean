import BuildFarm.Proofs.Queue.Run
import BuildFarm.Proofs.Store.Likeness

namespace BuildFarm

/-- What is told of a job by its id. -/
def JobInfo.of (j : Job) : JobInfo :=
  ⟨j.status,j.canceled,j.result,j.queued,j.started,j.finished⟩

namespace Queue

inductive Answer
  | enqueued (r : Except QueueError JobId)
  | claimed (r : Except QueueError (Option Claim))
  | described (r : Except QueueError JobDescription)
  | told (r : Except QueueError JobInfo)
  | done (r : Except QueueError Unit)
  | flag (r : Except QueueError Bool)
  | bound (r : Except QueueError JobId)
  | planned

def answer (q : Queue) : Action → Answer
  | .enqueue id now type args ds => .enqueued (q.enqueue id now type args ds).1
  | .request r draws f => .claimed (q.request r draws f).1
  | .describe id => .described (q.describe id).1
  | .info id => .told (q.info id).1
  | .conclude r token status result => .done (q.conclude r token status result).1
  | .cancel id => .done (q.cancel id).1
  | .isCanceled token => .flag (q.isCanceled token).1
  | .liveClaim token => .bound (q.liveClaim token)
  | .plan _ _ => .planned

/-- A call that reads one record and answers something of it. -/
def tell (q : Queue) (id : JobId) (of : Job → α) : Except QueueError α × Queue :=
  match q.store.get id with
  | (.error e,s) => (.error (.ofStore e),{ q with store := s })
  | (.ok j,s) => (.ok (of j),{ q with store := s })

theorem isCanceled_tells (q : Queue) (token : DispatchToken) : q.isCanceled token =
    match q.tokens.resolve token with
    | .error e => (.error (.ofToken e),q)
    | .ok id => q.tell id Job.canceled := rfl

/-- The calls of a run, each with its answer. -/
def transcript (q : Queue) : List Action → List (Action × Answer)
  | [] => []
  | a :: run => (a,q.answer a) :: (q.step a).transcript run

/-- Answers that look the same. -/
inductive Answer.Like (l : Store.Likeness) : Answer → Answer → Prop
  | same (a : Answer) : Like l a a
  | told (h : l.seen k = l.seen j) : Like l (.told (.ok (.of j))) (.told (.ok (.of k)))
  | flag (h : l.seen k = l.seen j) : Like l (.flag (.ok j.canceled)) (.flag (.ok k.canceled))

/-- Queues that cannot be told apart. -/
structure Like (l : Store.Likeness) (q p : Queue) : Prop where
  store : q.store.Like l p.store
  tokens : p.tokens = q.tokens

/-- What two calls come to that cannot be told apart. -/
structure Likewise (l : Store.Likeness) (r : α → β → Prop) (x : Except QueueError α × Queue)
    (y : Except QueueError β × Queue) : Prop where
  answer : Both Eq r x.1 y.1
  queue : Like l x.2 y.2

open Store

variable {l : Store.Likeness}

section Reads

variable {s t : Store} {j k : Job}

theorem checkAll_like (h : s.Like l t) (ds : List JobId) :
    Store.Likewise l Eq (checkAll s ds) (checkAll t ds) := by
  induction ds generalizing s t with
  | nil => exact ⟨.ok rfl,h⟩
  | cons d ds ih =>
    obtain ⟨hg,h⟩ := h.get d
    unfold checkAll
    generalize s.get d = a at hg h ⊢
    generalize t.get d = b at hg h ⊢
    obtain ⟨a,s⟩ := a
    obtain ⟨b,t⟩ := b
    cases hg with
    | ok _ => exact ih h
    | @error e _ he =>
      subst he
      cases e <;> exact ⟨.error rfl,h⟩

theorem results_like (h : s.Like l t) (read : List (JobId × Json)) (ds : List JobId) :
    Store.Likewise l Eq (results s read ds) (results t read ds) := by
  induction ds generalizing s t read with
  | nil => exact ⟨.ok rfl,h⟩
  | cons d ds ih =>
    obtain ⟨hg,h⟩ := h.get d
    unfold results
    generalize s.get d = a at hg h ⊢
    generalize t.get d = b at hg h ⊢
    obtain ⟨a,s⟩ := a
    obtain ⟨b,t⟩ := b
    cases hg with
    | ok hj =>
      dsimp only
      rw [(l.fields hj).result]
      exact ih h _
    | error he =>
      subst he
      exact ⟨.error rfl,h⟩

theorem dynamicArgs_like (h : s.Like l t) (hj : l.seen k = l.seen j) :
    Store.Likewise l Eq (dynamicArgs s j) (dynamicArgs t k) := by
  unfold dynamicArgs
  rw [(l.fields hj).dependencies]
  split
  · exact ⟨.ok rfl,h⟩
  · obtain ⟨hr,h⟩ := results_like h [] j.dependencies
    generalize results s [] j.dependencies = a at hr h ⊢
    generalize results t [] j.dependencies = b at hr h ⊢
    obtain ⟨a,s⟩ := a
    obtain ⟨b,t⟩ := b
    cases hr with
    | ok he =>
      subst he
      exact ⟨.ok rfl,h⟩
    | error he =>
      subst he
      exact ⟨.error rfl,h⟩

end Reads

namespace Like

variable {q p : Queue}

theorem enqueue (h : Like l q p) (id : JobId) (now : Instant) (type : JobType) (args : Json)
    (ds : List JobId) :
    Likewise l Eq (q.enqueue id now type args ds) (p.enqueue id now type args ds) := by
  obtain ⟨hc,hs⟩ := checkAll_like h.store ds.eraseDups
  unfold Queue.enqueue
  dsimp only
  generalize checkAll q.store ds.eraseDups = a at hc hs ⊢
  generalize checkAll p.store ds.eraseDups = b at hc hs ⊢
  obtain ⟨a,s⟩ := a
  obtain ⟨b,t⟩ := b
  cases hc with
  | error he =>
    subst he
    exact ⟨.error rfl,hs,h.tokens⟩
  | ok _ =>
    obtain ⟨hm,hs⟩ := hs.create (Job.make id type args ds.eraseDups now)
    dsimp only
    generalize s.create (Job.make id type args ds.eraseDups now) = a at hm hs ⊢
    generalize t.create (Job.make id type args ds.eraseDups now) = b at hm hs ⊢
    obtain ⟨a,s⟩ := a
    obtain ⟨b,t⟩ := b
    cases hm with
    | ok _ => exact ⟨.ok rfl,hs,h.tokens⟩
    | error he =>
      subst he
      exact ⟨.error rfl,hs,h.tokens⟩

theorem request (h : Like l q p) (r : Reading) (draws : List DispatchToken) (f : ClaimFilter) :
    Likewise l Eq (q.request r draws f) (p.request r draws f) := by
  obtain ⟨hn,hs⟩ := h.store.next f r.now
  unfold Queue.request
  rw [h.tokens]
  generalize q.store.next f r.now = a at hn hs ⊢
  generalize p.store.next f r.now = b at hn hs ⊢
  obtain ⟨a,s⟩ := a
  obtain ⟨b,t⟩ := b
  cases hn with
  | error he =>
    subst he
    exact ⟨.error rfl,hs,rfl⟩
  | @ok a b hj =>
    cases a <;> cases b
    · exact ⟨.ok rfl,hs,rfl⟩
    · cases hj
    · cases hj
    · rename_i j k
      have hj : l.seen k = l.seen j := Option.some.inj hj
      have hf := l.fields hj
      obtain ⟨hd,hs⟩ := dynamicArgs_like hs hj
      dsimp only
      generalize dynamicArgs s j = a at hd hs ⊢
      generalize dynamicArgs t k = b at hd hs ⊢
      obtain ⟨a,s⟩ := a
      obtain ⟨b,t⟩ := b
      cases hd with
      | error he =>
        subst he
        rw [hf.id]
        exact ⟨.error rfl,(hs.update j.id [.release]).store,rfl⟩
      | ok he =>
        subst he
        dsimp only
        rw [hf.id,hf.type,hf.args]
        cases q.tokens.issue? r.uptime draws j.id with
        | none => exact ⟨.error rfl,hs,rfl⟩
        | some x => exact ⟨.ok rfl,hs,rfl⟩

theorem conclude (h : Like l q p) (r : Reading) (token : DispatchToken)
    (status : Option JobStatus) (result : Option Json) :
    Likewise l Eq (q.conclude r token status result) (p.conclude r token status result) := by
  unfold Queue.conclude
  rw [h.tokens]
  cases q.tokens.resolveLive token with
  | error e => exact ⟨.error rfl,h⟩
  | ok id =>
    dsimp only
    split
    · obtain ⟨hu,hs⟩ := h.store.update id [.conclude (status.getD .finished) result r.now]
      generalize q.store.update id [.conclude (status.getD .finished) result r.now] = a at hu hs ⊢
      generalize p.store.update id [.conclude (status.getD .finished) result r.now] = b at hu hs ⊢
      obtain ⟨a,s⟩ := a
      obtain ⟨b,t⟩ := b
      cases hu with
      | ok _ => exact ⟨.ok rfl,hs,rfl⟩
      | @error e _ he =>
        subst he
        cases e
        case invalidTransition => exact ⟨.error rfl,hs,rfl⟩
        all_goals exact ⟨.error rfl,hs,rfl⟩
    · exact ⟨.error rfl,h⟩

theorem cancel (h : Like l q p) (id : JobId) :
    Likewise l Eq (q.cancel id) (p.cancel id) := by
  obtain ⟨hu,hs⟩ := h.store.update id [.cancel]
  unfold Queue.cancel
  generalize q.store.update id [.cancel] = a at hu hs ⊢
  generalize p.store.update id [.cancel] = b at hu hs ⊢
  obtain ⟨a,s⟩ := a
  obtain ⟨b,t⟩ := b
  cases hu with
  | ok _ => exact ⟨.ok rfl,hs,h.tokens⟩
  | error he =>
    subst he
    exact ⟨.error rfl,hs,h.tokens⟩

theorem tell (h : Like l q p) (id : JobId) (of : Job → α) :
    Likewise l (fun a b => ∃ j k, l.seen k = l.seen j ∧ a = of j ∧ b = of k) (q.tell id of)
      (p.tell id of) := by
  obtain ⟨hg,hs⟩ := h.store.get id
  unfold Queue.tell
  generalize q.store.get id = a at hg hs ⊢
  generalize p.store.get id = b at hg hs ⊢
  obtain ⟨a,s⟩ := a
  obtain ⟨b,t⟩ := b
  cases hg with
  | @ok j k hj => exact ⟨.ok ⟨j,k,hj,rfl,rfl⟩,hs,h.tokens⟩
  | error he =>
    subst he
    exact ⟨.error rfl,hs,h.tokens⟩

end Like

theorem Likewise.answers {r : α → α → Prop} {x y : Except QueueError α × Queue}
    (h : Likewise l r x y) (wrap : Except QueueError α → Answer)
    (hr : ∀ a b, r a b → (wrap (.ok a)).Like l (wrap (.ok b))) :
    (wrap x.1).Like l (wrap y.1) ∧ Queue.Like l x.2 y.2 := by
  obtain ⟨ha,hq⟩ := h
  generalize x.1 = a at ha ⊢
  generalize y.1 = b at ha ⊢
  cases ha with
  | ok h => exact ⟨hr _ _ h,hq⟩
  | error he => exact ⟨he ▸ .same _,hq⟩

theorem Likewise.same {x y : Except QueueError α × Queue} (h : Likewise l Eq x y)
    (wrap : Except QueueError α → Answer) :
    (wrap x.1).Like l (wrap y.1) ∧ Queue.Like l x.2 y.2 :=
  h.answers wrap (fun _ _ he => he ▸ .same _)

/-- Whatever is asked of queues that cannot be told apart, their answers look the same. -/
theorem step_like {q p : Queue} (h : Like l q p) (a : Action) :
    (q.answer a).Like l (p.answer a) ∧ Like l (q.step a) (p.step a) := by
  cases a with
  | enqueue id now type args ds => exact (h.enqueue id now type args ds).same .enqueued
  | request r draws f => exact (h.request r draws f).same .claimed
  | describe id =>
    refine (h.tell id (fun j => ⟨j.type,j.args,j.dependencies⟩)).answers .described ?_
    rintro _ _ ⟨j,k,hj,rfl,rfl⟩
    have hf := l.fields hj
    rw [hf.type,hf.args,hf.dependencies]
    exact .same _
  | info id =>
    refine (h.tell id JobInfo.of).answers .told ?_
    rintro _ _ ⟨j,k,hj,rfl,rfl⟩
    exact .told hj
  | conclude r token status result => exact (h.conclude r token status result).same .done
  | cancel id => exact (h.cancel id).same .done
  | isCanceled token =>
    simp only [answer,step,isCanceled_tells,h.tokens]
    cases q.tokens.resolve token with
    | error e => exact ⟨.same _,h⟩
    | ok id =>
      refine (h.tell id Job.canceled).answers .flag ?_
      rintro _ _ ⟨j,k,hj,rfl,rfl⟩
      exact .flag hj
  | liveClaim token =>
    refine ⟨?_,h⟩
    simp only [answer,Queue.liveClaim,h.tokens]
    exact .same _
  | plan outages failures => exact ⟨.same _,h.store.plan _ failures,h.tokens⟩

theorem Answer.Like.full {a b : Answer} (h : a.Like .full b) : b = a := by
  cases h with
  | same => rfl
  | @told k j h =>
    have hj : k = j := h
    rw [hj]
  | @flag k j h =>
    have hj : k = j := h
    rw [hj]

/-- Where everything is looked at, the answers are the same, however long one goes on. -/
theorem transcript_full {q p : Queue} (h : Like .full q p) (run : List Action) :
    p.transcript run = q.transcript run := by
  induction run generalizing q p with
  | nil => rfl
  | cons a run ih =>
    obtain ⟨ha,hs⟩ := step_like h a
    rw [transcript,transcript,ha.full,ih hs]

end Queue

end BuildFarm
