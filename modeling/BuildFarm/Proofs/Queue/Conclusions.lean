import BuildFarm.Proofs.Queue.Tokens

namespace BuildFarm

namespace Queue

open Store

/-- The record bears this outcome, and the queue tells it of the job unless the store is out. -/
structure Reports (q : Queue) (job : JobId) (status : JobStatus) (result : Option Json)
    (now : Instant) : Prop where
  record : ∃ r, q.store.find? job = some r ∧ r.status = status ∧ r.result = result ∧
    r.finished = some now
  answer : (∃ i, (q.info job).1 = .ok i ∧ i.status = status ∧ i.result = result ∧
      i.finished = some now) ∨
    q.store.faults ≠ [] ∧ ∃ m, (q.info job).1 = .error (.store (.storage m))

/-- A conclusion with the token, whatever it says, is answered with this error and changes
nothing. -/
def Refuses (q : Queue) (token : DispatchToken) (e : QueueError) : Prop :=
  ∀ r status result, q.conclude r token status result = (.error e,q)

def conclusions (es : List Event) : List JobId :=
  es.filterMap Event.concludedJob?

theorem conclusions_append (es es' : List Event) :
    conclusions (es ++ es') = conclusions es ++ conclusions es' :=
  List.filterMap_append

theorem info_answer {q : Queue} {job : JobId} (ho : q.store.OnlyOutages)
    (hr : q.store.find? job = some r) :
    (q.info job).1 = .ok ⟨r.status,r.canceled,r.result,r.queued,r.started,r.finished⟩ ∨
    q.store.faults ≠ [] ∧ ∃ m, (q.info job).1 = .error (.store (.storage m)) := by
  have hg := get_unless_out ho hr
  unfold info
  generalize q.store.get job = p at hg ⊢
  obtain ⟨x,s⟩ := p
  obtain rfl | ⟨hf,m,rfl⟩ : x = .ok r ∨ q.store.faults ≠ [] ∧ ∃ m, x = .error (.storage m) := hg
  · exact Or.inl rfl
  · exact Or.inr ⟨hf,m,rfl⟩

theorem refuses_unless_live {q : Queue} {token : DispatchToken}
    (h : q.tokens.live[token]? = none) :
    q.Refuses token
      (if q.tokens.retired.contains token then .claimConcluded else .unknownToken) := by
  intro r status result
  rw [conclude,Registry.resolveLive_none h]
  cases q.tokens.retired.contains token <;> rfl

theorem conclude_refused {q : Queue} {token : DispatchToken}
    (hc : (q.conclude r token status result).1 = .error .claimConcluded) :
    (∃ j, q.tokens.retired[token]? = some j) ∨ ∃ j, q.tokens.live[token]? = some j := by
  cases hl : q.tokens.live[token]? with
  | some j => exact Or.inr ⟨j,rfl⟩
  | none =>
    rw [refuses_unless_live hl] at hc
    cases hr : q.tokens.retired[token]? with
    | some j => exact Or.inl ⟨j,rfl⟩
    | none =>
      have hn : q.tokens.retired.contains token = false := by
        rw [Std.HashMap.contains_eq_isSome_getElem?,hr]
        rfl
      rw [hn] at hc
      cases hc

/-- While the job of a live token runs, its claim is not taken for a concluded one. -/
theorem conclude_running {q : Queue} {token : DispatchToken} (ho : q.store.OnlyOutages)
    (hl : q.tokens.live[token]? = some job) (hr : q.store.Running job) :
    (q.conclude r token status result).1 ≠ .error .claimConcluded := by
  obtain ⟨k,hk,hs⟩ := hr
  simp only [conclude,Registry.resolveLive_ok.mpr hl]
  by_cases ht : (status.getD .finished).isTerminal = true
  · simp only [ht,↓reduceIte]
    cases hu : q.store.update job [.conclude (status.getD .finished) result r.now] with
    | mk x t =>
      rcases (update_cases ho hu).2 with
        ⟨m,rfl,_⟩ | ⟨rfl,_⟩ | ⟨old,e,hold,hc,rfl,_⟩ | ⟨_,_,_,_,rfl,_⟩
      · simp [QueueError.ofStore]
      · simp [QueueError.ofStore]
      · rw [hk] at hold
        cases hold
        rw [Job.changeAll_singleton] at hc
        rcases k.conclude_cases result r.now ht with ⟨_,he⟩ | ⟨hn,_⟩
        · cases he.symm.trans hc
        · exact absurd hs hn
      · simp
  · simp [ht]

/-- A conclusion that is answered well is told of, with the job of its token. -/
theorem conclude_events {q : Queue} {token : DispatchToken}
    (hc : (q.conclude r token status result).1 = .ok ()) :
    ∃ job, q.tokens.live[token]? = some job ∧ q.events (.conclude r token status result) =
      [.concluded token job (status.getD .finished) result r.now] := by
  cases hl : q.tokens.live[token]? with
  | none =>
    rw [refuses_unless_live hl] at hc
    cases hc
  | some job =>
    have hlive : q.liveClaim token = .ok job := by
      simp [liveClaim,Registry.resolveLive_ok.mpr hl,Except.mapError]
    exact ⟨job,rfl,by simp [events,hlive,hc]⟩

theorem Effect.limits {q p : Queue} (he : Effect q a es p) (hq : Regular q) :
    p.tokens.ttl = q.tokens.ttl ∧ p.tokens.capacity = q.tokens.capacity := by
  cases he with
  | claimed _ _ _ issued _ =>
    have hf := (Registry.issue?_cases hq.sound issued).2.2.2.1
    exact ⟨hf.ttl,hf.capacity⟩
  | concluded live =>
    obtain ⟨_,_,ht,hc,_⟩ := Registry.retire_cases hq.sound _ live
    exact ⟨ht,hc⟩
  | lapsed live =>
    obtain ⟨_,_,ht,hc,_⟩ := Registry.retire_cases hq.sound _ live
    exact ⟨ht,hc⟩
  | _ => exact ⟨rfl,rfl⟩

theorem limits (disk : Disk) (root : Option Path) (run : List Action) :
    ((start disk root).after run).tokens.ttl = Registry.defaultTtl ∧
      ((start disk root).after run).tokens.capacity = Registry.defaultCapacity := by
  refine effect_induction (P := fun _ _ q => q.tokens.ttl = Registry.defaultTtl ∧
    q.tokens.capacity = Registry.defaultCapacity) (start_regular disk root) ⟨rfl,rfl⟩ ?_ run
  intro past es q a es' p hq h he
  obtain ⟨ht,hc⟩ := he.limits hq
  exact ⟨ht.trans h.1,hc.trans h.2⟩

/-- What holds after a run and is kept by each effect that the calls can still have holds after
every longer run. -/
theorem future_induction (disk : Disk) (root : Option Path) (past : List Action)
    {P : List Action → List Event → Queue → Prop} (now : P [] [] ((start disk root).after past))
    (next : ∀ future es q a es' p, Regular q →
      (∀ (token : DispatchToken) job, q.tokens.live[token]? = some job → q.store.Running job) →
      q.tokens.ttl = Registry.defaultTtl → q.tokens.capacity = Registry.defaultCapacity →
      P future es q → Effect q a es' p → P (future ++ [a]) (es ++ es') p)
    (future : List Action) :
    P future (((start disk root).after past).history future)
      (((start disk root).after past).after future) := by
  refine (run_induction (q := (start disk root).after past)
    (P := fun future es q => q = (start disk root).after (past ++ future) ∧ P future es q)
    ⟨by simp,now⟩ ?_ future).2
  rintro future es q a ⟨rfl,h⟩
  have hq := after_regular (start_regular disk root) (past ++ future)
  obtain ⟨ht,hc⟩ := limits disk root (past ++ future)
  refine ⟨by simp [after],next _ _ _ a _ _ hq ?_ ht hc h (step_effect hq a).2.2⟩
  exact fun token job => (matched disk root (past ++ future)).live

/-- A token that is not live is live again only by being handed out again. -/
theorem Effect.not_live {q p : Queue} {t : DispatchToken} (he : Effect q a es p) (hq : Regular q)
    (h : q.tokens.live[t]? = none) (hes : ∀ c, .claimed c ∈ es → c.token ≠ t) :
    p.tokens.live[t]? = none := by
  cases he with
  | claimed _ _ _ issued _ =>
    have hl := (Registry.issue?_cases hq.sound issued).2.2.2.2.1
    have hne := hes _ List.mem_cons_self
    simp only at hne
    simp [hl,Std.HashMap.getElem?_insert,hne,h]
  | concluded live =>
    rw [(Registry.retire_cases hq.sound _ live).1]
    simp [Std.HashMap.getElem?_erase,h]
  | lapsed live =>
    rw [(Registry.retire_cases hq.sound _ live).1]
    simp [Std.HashMap.getElem?_erase,h]
  | _ => exact h

/-- A retired token stays listed while it is young and few others have followed it. -/
theorem Effect.listed {q p : Queue} {t : DispatchToken} (he : Effect q a es p) (hq : Regular q)
    (hrun : ∀ (token : DispatchToken) job, q.tokens.live[token]? = some job → q.store.Running job)
    (hy : ∀ r, a.reading? = some r → r.uptime - since < q.tokens.ttl)
    (hl : q.tokens.order.toList = before ++ (since,t) :: later)
    (hn : later.length + (conclusions es).length < q.tokens.capacity) :
    ∃ before later', p.tokens.order.toList = before ++ (since,t) :: later' ∧
      later'.length = later.length + (conclusions es).length := by
  cases he with
  | claimed _ _ _ issued _ =>
    have hk := (Registry.issue?_cases hq.sound issued).2.2.2.2.2.2
    rw [hl] at hk
    obtain ⟨rest,hr⟩ := Registry.kept_recent before later t (hy _ rfl) (Nat.lt_of_add_right_lt hn)
    exact ⟨rest,later,hk.trans hr,rfl⟩
  | @concluded token _ _ _ _ r _ live =>
    have hk := (Registry.retire_cases hq.sound r.uptime live).2.2.2.2.1
    rw [hl,List.append_assoc,List.cons_append] at hk
    obtain ⟨rest,hr⟩ := Registry.kept_recent before (later ++ [(r.uptime,token)]) t (hy _ rfl)
      (by simpa [conclusions,Event.concludedJob?] using hn)
    exact ⟨rest,_,hk.trans hr,by simp [conclusions,Event.concludedJob?]⟩
  | lapsed live found running => exact absurd (hrun _ _ live) (running_not_of found running)
  | _ => exact ⟨before,later,hl,rfl⟩

theorem told_reports {disk : Disk} {root : Option Path} {run : List Action} {job : JobId}
    (hm : .concluded token job status result now ∈ (start disk root).history run) :
    ((start disk root).after run).Reports job status result now := by
  obtain ⟨_,r,hr,hs,hres,hf⟩ := (told disk root run).ended hm
  refine ⟨⟨r,hr,hs,hres,hf⟩,?_⟩
  have ho := (after_regular (start_regular disk root) run).outages
  exact (info_answer ho hr).imp_left (fun hi => ⟨_,hi,hs,hres,hf⟩)

/-- Where the token was retired at `since`, it is refused as that of a concluded claim while all
calls come soon enough and at most so many other claims are concluded. -/
theorem refuses_while_kept {disk : Disk} {root : Option Path} {past : List Action}
    {token : DispatchToken} {since : Nat}
    (hl : ∃ before, ((start disk root).after past).tokens.order.toList = before ++ [(since,token)])
    (future : List Action)
    (hy : ∀ a ∈ future, ∀ r, a.reading? = some r → r.uptime - since < Registry.defaultTtl)
    (hn : (conclusions (((start disk root).after past).history future)).length <
      Registry.defaultCapacity) :
    (((start disk root).after past).after future).Refuses token .claimConcluded := by
  have listed := future_induction disk root past
    (P := fun future es q =>
      (∀ a ∈ future, ∀ r, a.reading? = some r → r.uptime - since < Registry.defaultTtl) →
      (conclusions es).length < Registry.defaultCapacity →
      ∃ before later, q.tokens.order.toList = before ++ (since,token) :: later ∧
        later.length = (conclusions es).length)
    (fun _ _ => hl.imp fun before h => ⟨[],h,rfl⟩) (by
      intro future es q a es' p hq hrun httl hcap ih he hy hn
      rw [conclusions_append,List.length_append] at hn ⊢
      obtain ⟨before,later,hlist,hlen⟩ :=
        ih (fun b hb => hy b (List.mem_append_left _ hb)) (Nat.lt_of_add_right_lt hn)
      rw [← hlen] at hn ⊢
      rw [← hcap] at hn
      refine he.listed hq hrun ?_ hlist hn
      rw [httl]
      exact hy a (List.mem_append_right _ List.mem_cons_self))
    future hy hn
  obtain ⟨before,later,hlist,_⟩ := listed
  rw [← after_append] at hlist ⊢
  have hs := (after_regular (start_regular disk root) (past ++ future)).sound
  have hret := (hs.retired token).mpr (by rw [hlist]; simp)
  have hlive : ((start disk root).after (past ++ future)).tokens.live[token]? = none := by
    exact Std.HashMap.getElem?_eq_none (fun hm => hs.apart token hm hret)
  have href := refuses_unless_live hlive
  rwa [if_pos (Std.HashMap.mem_iff_contains.mp hret)] at href

/-- Once forgotten, a token is refused as unknown; it is good for something again only if it is
drawn and handed out once more. -/
theorem refuses_unless_claimed {disk : Disk} {root : Option Path} {past : List Action}
    {token : DispatchToken} (hl : ((start disk root).after past).tokens.live[token]? = none)
    (future : List Action)
    (hn : ∀ c, .claimed c ∈ ((start disk root).after past).history future → c.token ≠ token) :
    (((start disk root).after past).after future).Refuses token
      (if (((start disk root).after past).after future).tokens.retired.contains token
        then .claimConcluded else .unknownToken) := by
  refine refuses_unless_live (effect_induction
    (P := fun _ es q => (∀ c, .claimed c ∈ es → c.token ≠ token) →
      q.tokens.live[token]? = none)
    (after_regular (start_regular disk root) past) (fun _ => hl) ?_ future hn)
  intro future es q a es' p hq ih he hn
  refine he.not_live hq (ih fun c hc => hn c (List.mem_append_left _ hc)) ?_
  exact fun c hc => hn c (List.mem_append_right _ hc)

/-- What a conclusion leaves of the token: it is the last of the retired ones. -/
theorem Effect.concluded_token {q p : Queue} {t : DispatchToken}
    (he : Effect q (.conclude r t status result) [.concluded t job status' result' now] p)
    (hq : Regular q) (httl : q.tokens.ttl = Registry.defaultTtl)
    (hcap : q.tokens.capacity = Registry.defaultCapacity) :
    p.tokens.live[t]? = none ∧
      ∃ before, p.tokens.order.toList = before ++ [(r.uptime,t)] := by
  cases he with
  | concluded live =>
    obtain ⟨hl,_,_,_,hk,_⟩ := Registry.retire_cases hq.sound r.uptime live
    refine ⟨by simp [hl],?_⟩
    have hy : r.uptime - r.uptime < q.tokens.ttl := by
      rw [httl,Nat.sub_self]
      decide
    have hn : ([] : List (Nat × DispatchToken)).length < q.tokens.capacity := by
      rw [hcap]
      decide
    obtain ⟨rest,hr⟩ := Registry.kept_recent q.tokens.order.toList [] t hy hn
    exact ⟨rest,hk.trans hr⟩

/-- What the run to come cannot change about a claim that was concluded through the token: its
outcome is told, and the token is refused. It is refused as that of a concluded claim at least
while the calls come soon enough and few enough other claims are concluded, and it is good for
something again only where it is drawn and handed out once more. -/
structure Settled (q : Queue) (token : DispatchToken) (job : JobId) (status : JobStatus)
    (result : Option Json) (r : Reading) (future : List Action) : Prop where
  reported : (q.after future).Reports job status result r.now
  refused : (∀ c, .claimed c ∈ q.history future → c.token ≠ token) →
    (q.after future).Refuses token
      (if (q.after future).tokens.retired.contains token then .claimConcluded else .unknownToken)
  kept : (∀ a ∈ future, ∀ s, a.reading? = some s → s.uptime - r.uptime < Registry.defaultTtl) →
    (conclusions (q.history future)).length < Registry.defaultCapacity →
    (q.after future).Refuses token .claimConcluded

theorem conclude_settled {disk : Disk} {root : Option Path} {past : List Action}
    {token : DispatchToken}
    (hc : (((start disk root).after past).conclude r token status result).1 = .ok ()) :
    ∃ job, ((start disk root).after past).liveClaim token = .ok job ∧ ∀ future,
      Settled ((start disk root).after (past ++ [.conclude r token status result])) token job
        (status.getD .finished) result r future := by
  obtain ⟨job,hlive,hes⟩ := conclude_events hc
  refine ⟨job,by simp [liveClaim,Registry.resolveLive_ok.mpr hlive,Except.mapError],?_⟩
  have hq := after_regular (start_regular disk root) past
  obtain ⟨httl,hcap⟩ := limits disk root past
  have he := (step_effect hq (.conclude r token status result)).2.2
  rw [hes] at he
  obtain ⟨hnone,hlist⟩ := he.concluded_token hq httl hcap
  have hstep : (start disk root).after (past ++ [.conclude r token status result]) =
      ((start disk root).after past).step (.conclude r token status result) := by
    simp [after]
  intro future
  refine ⟨?_,refuses_unless_claimed (hstep ▸ hnone) future,
    refuses_while_kept (hstep ▸ hlist) future⟩
  have hm : .concluded token job (status.getD .finished) result r.now ∈
      (start disk root).history (past ++ [.conclude r token status result] ++ future) := by
    rw [history_append,history_append]
    refine List.mem_append_left _ (List.mem_append_right _ ?_)
    simp [history,hes]
  rw [← after_append]
  exact told_reports hm

theorem conclude_refused_told {disk : Disk} {root : Option Path} {past : List Action}
    {token : DispatchToken}
    (hc : (((start disk root).after past).conclude r token status result).1 =
      .error .claimConcluded) :
    ∃ job status' result' now,
      .concluded token job status' result' now ∈ (start disk root).history past := by
  have hm := matched disk root past
  rcases conclude_refused hc with ⟨job,hret⟩ | ⟨job,hlive⟩
  · obtain ⟨status',result',now,h⟩ := hm.retired hret
    exact ⟨job,status',result',now,h⟩
  · exact absurd hc (conclude_running (after_regular (start_regular disk root) past).outages
      hlive (hm.live hlive))

/-- No job is concluded twice. A conclusion that is answered well settles its claim, however the
run goes on; and only a token of such a conclusion is refused as that of a concluded claim. -/
theorem first_conclusion_wins (disk : Disk) (root : Option Path) (past : List Action) :
    (conclusions ((start disk root).history past)).Nodup ∧
    (∀ r token status result,
      (((start disk root).after past).conclude r token status result).1 = .ok () →
      ∃ job, ((start disk root).after past).liveClaim token = .ok job ∧ ∀ future,
        Settled ((start disk root).after (past ++ [.conclude r token status result])) token job
          (status.getD .finished) result r future) ∧
    ∀ r token status result,
      (((start disk root).after past).conclude r token status result).1 =
        .error .claimConcluded →
      ∃ job status' result' now,
        .concluded token job status' result' now ∈ (start disk root).history past :=
  ⟨(told disk root past).once,fun _ _ _ _ => conclude_settled,
    fun _ _ _ _ => conclude_refused_told⟩

theorem first_conclusion_wins_claimed :
    (((start .empty none).after Sample.claimed).conclude (Sample.reading 1) (Sample.ticket 1) none
      (some (.text "done"))).1 = .ok () ∧
    ∃ job, ((start .empty none).after Sample.claimed).liveClaim (Sample.ticket 1) = .ok job ∧
      ∀ future, Settled ((start .empty none).after (Sample.claimed ++
        [.conclude (Sample.reading 1) (Sample.ticket 1) none (some (.text "done"))]))
        (Sample.ticket 1) job .finished (some (.text "done")) (Sample.reading 1) future := by
  have hc : (((start .empty none).after Sample.claimed).conclude (Sample.reading 1)
      (Sample.ticket 1) none (some (.text "done"))).1 = .ok () := by
    rw [Sample.claimed_after,Sample.concluded_step]
  exact ⟨hc,(first_conclusion_wins .empty none Sample.claimed).2.1 _ _ _ _ hc⟩

end Queue

end BuildFarm
