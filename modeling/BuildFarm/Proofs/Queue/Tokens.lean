import BuildFarm.Proofs.Queue.Records
import BuildFarm.Proofs.Registry.Retiring

namespace BuildFarm

namespace Store

def Running (s : Store) (id : JobId) : Prop :=
  ∃ r, s.find? id = some r ∧ r.status = .running

theorem Sets.running {s t : Store} {id i : JobId} (h : s.Sets t id new) :
    t.Running i ↔ if id = i then new.status = .running else s.Running i := by
  unfold Running
  rw [h i]
  split <;> simp

theorem Keeps.running {s t : Store} {i : JobId} (h : s.Keeps t) : t.Running i ↔ s.Running i := by
  unfold Running
  rw [h i]

theorem running_not_of {s : Store} {id : JobId} (found : s.find? id = some r)
    (h : r.status ≠ .running) : ¬s.Running id := by
  rintro ⟨r',hr',hs⟩
  rw [found] at hr'
  cases hr'
  exact h hs

end Store

namespace Queue

open Store

/-- Every request draws a token that was not drawn before. -/
structure DistinctDraws (run : List Action) : Prop where
  distinct : (run.flatMap Action.draws).Nodup
  nonempty : ∀ r draws f, .request r draws f ∈ run → draws ≠ []

theorem DistinctDraws.past {xs ys : List Action} (h : DistinctDraws (xs ++ ys)) :
    DistinctDraws xs := by
  refine ⟨?_,fun r draws f hm => h.nonempty r draws f (List.mem_append_left _ hm)⟩
  have hd := h.distinct
  rw [List.flatMap_append] at hd
  exact (List.nodup_append.mp hd).1

theorem DistinctDraws.new {past : List Action} (h : DistinctDraws (past ++ [.request r draws f])) :
    ∃ t ∈ draws, t ∉ past.flatMap Action.draws := by
  have hn := h.nonempty r draws f (by simp)
  obtain ⟨t,ht⟩ := List.exists_mem_of_ne_nil draws hn
  refine ⟨t,ht,?_⟩
  have hd := h.distinct
  rw [List.flatMap_append] at hd
  intro hp
  exact (List.nodup_append.mp hd).2.2 t hp t (by simpa [Action.draws] using ht) rfl

/-- How the tokens and the records of running jobs belong together after a run. -/
structure Matched (past : List Action) (es : List Event) (q : Queue) : Prop where
  live {t : DispatchToken} {j} : q.tokens.live[t]? = some j → q.store.Running j
  single {t u : DispatchToken} {j} : q.tokens.live[t]? = some j → q.tokens.live[u]? = some j → t = u
  retired {t : DispatchToken} {j} : q.tokens.retired[t]? = some j →
    ∃ status result now, .concluded t j status result now ∈ es
  covered {j} : DistinctDraws past → q.store.Running j →
    (∃ t : DispatchToken, q.tokens.live[t]? = some j) ∨ .stranded j ∈ es
  lost {j} : .stranded j ∈ es →
    q.store.Running j ∧ ∀ t : DispatchToken, q.tokens.live[t]? ≠ some j
  drawn {t : DispatchToken} {j} : q.tokens.live[t]? = some j ∨ q.tokens.retired[t]? = some j →
    t ∈ past.flatMap Action.draws

theorem matched_start (disk : Disk) (root : Option Path) : Matched [] [] (start disk root) := by
  refine ⟨?_,?_,?_,?_,nofun,?_⟩
  · intro t j h
    simp [start,ofStore,Registry.fresh,Registry.empty] at h
  · intro t u j h
    simp [start,ofStore,Registry.fresh,Registry.empty] at h
  · intro t j h
    simp [start,ofStore,Registry.fresh,Registry.empty] at h
  · rintro j _ ⟨r,hr,_⟩
    cases hr
  · intro t j h
    simp [start,ofStore,Registry.fresh,Registry.empty] at h

namespace Matched

variable {past : List Action} {es : List Event} {q : Queue}

theorem drawn_later (h : Matched past es q) (a : Action) {t : DispatchToken}
    (ht : q.tokens.live[t]? = some j ∨ q.tokens.retired[t]? = some j) :
    t ∈ (past ++ [a]).flatMap Action.draws := by
  rw [List.flatMap_append]
  exact List.mem_append_left _ (h.drawn ht)

theorem retired_later (h : Matched past es q) (es' : List Event) {t : DispatchToken}
    (ht : q.tokens.retired[t]? = some j) :
    ∃ status result now, .concluded t j status result now ∈ es ++ es' := by
  obtain ⟨status,result,now,hm⟩ := h.retired ht
  exact ⟨status,result,now,List.mem_append_left _ hm⟩

/-- A token that was not drawn before is free. -/
theorem free (h : Matched past es q) {t : DispatchToken} (ht : t ∉ past.flatMap Action.draws) :
    q.tokens.isTaken t = false := by
  have hlive : q.tokens.live[t]? = none :=
    Option.eq_none_iff_forall_ne_some.mpr (fun j hj => ht (h.drawn (Or.inl hj)))
  have hretired : q.tokens.retired[t]? = none :=
    Option.eq_none_iff_forall_ne_some.mpr (fun j hj => ht (h.drawn (Or.inr hj)))
  simp [Registry.isTaken,Std.HashMap.contains_eq_isSome_getElem?,hlive,hretired]

theorem issues (h : Matched past es q) (hq : Regular q)
    (hd : DistinctDraws (past ++ [.request r draws f])) (job : JobId) :
    q.tokens.issue? r.uptime draws job ≠ none := by
  obtain ⟨t,ht,hnew⟩ := hd.new
  exact Registry.issue?_free hq.sound ht (h.free hnew) _ _

/-- A call that starts no job, ends no job and leaves the tokens alone. -/
theorem steady {s : Store} (h : Matched past es q) (a : Action)
    (hr : ∀ i, s.Running i ↔ q.store.Running i) (hes : ∀ j, .stranded j ∉ es') :
    Matched (past ++ [a]) (es ++ es') ⟨s,q.tokens⟩ where
  live ht := (hr _).mpr (h.live ht)
  single := h.single
  retired ht := h.retired_later _ ht
  covered hd hj := (h.covered hd.past ((hr _).mp hj)).imp_right (List.mem_append_left _)
  lost hj := by
    obtain ⟨hj,ht⟩ := h.lost ((List.mem_append.mp hj).resolve_right (hes _))
    exact ⟨(hr _).mpr hj,ht⟩
  drawn ht := h.drawn_later a ht

/-- A job that was not running is marked as such, and no token is bound to it. -/
theorem strand {s : Store} {id : JobId} (h : Matched past es q) (a : Action)
    (hn : ¬q.store.Running id) (hr : ∀ i, s.Running i ↔ id = i ∨ q.store.Running i)
    (hes : ∀ j, .stranded j ∈ es' → j = id)
    (hc : DistinctDraws (past ++ [a]) → .stranded id ∈ es') :
    Matched (past ++ [a]) (es ++ es') ⟨s,q.tokens⟩ where
  live ht := (hr _).mpr (Or.inr (h.live ht))
  single := h.single
  retired ht := h.retired_later _ ht
  covered hd hj := by
    rcases (hr _).mp hj with rfl | hj
    · exact Or.inr (List.mem_append_right _ (hc hd))
    · exact (h.covered hd.past hj).imp_right (List.mem_append_left _)
  lost hj := by
    rcases List.mem_append.mp hj with hj | hj
    · obtain ⟨hj,ht⟩ := h.lost hj
      exact ⟨(hr _).mpr (Or.inr hj),ht⟩
    · cases hes _ hj
      exact ⟨(hr _).mpr (Or.inl rfl),fun t ht => hn (h.live ht)⟩
  drawn ht := h.drawn_later a ht

/-- A job that was not running is marked as such under a new token. -/
theorem issue {s : Store} {tokens : Registry} {id : JobId} (h : Matched past es q)
    (hq : q.tokens.Sound) (hi : q.tokens.issue? r.uptime draws id = some (token,tokens))
    (hn : ¬q.store.Running id) (hr : ∀ i, s.Running i ↔ id = i ∨ q.store.Running i)
    (hes : ∀ j, .stranded j ∉ es') :
    Matched (past ++ [.request r draws f]) (es ++ es') ⟨s,tokens⟩ := by
  obtain ⟨hm,_,_,hf,_⟩ := Registry.issue?_cases hq hi
  have hlive := Registry.issue?_live hq hi
  constructor
  · intro t j ht
    rcases (hlive t j).mp ht with ⟨_,rfl⟩ | ht
    · exact (hr _).mpr (Or.inl rfl)
    · exact (hr _).mpr (Or.inr (h.live ht))
  · intro t u j ht hu
    rcases (hlive t j).mp ht with ⟨rfl,rfl⟩ | ht
    · rcases (hlive u j).mp hu with ⟨rfl,_⟩ | hu
      · rfl
      · exact absurd (h.live hu) hn
    · rcases (hlive u j).mp hu with ⟨rfl,rfl⟩ | hu
      · exact absurd (h.live ht) hn
      · exact h.single ht hu
  · intro t j ht
    exact h.retired_later _ (hf.retired t j ht)
  · intro j hd hj
    rcases (hr _).mp hj with rfl | hj
    · exact Or.inl ⟨token,(hlive token id).mpr (Or.inl ⟨rfl,rfl⟩)⟩
    · rcases h.covered hd.past hj with ⟨t,ht⟩ | hj
      · exact Or.inl ⟨t,(hlive t j).mpr (Or.inr ht)⟩
      · exact Or.inr (List.mem_append_left _ hj)
  · intro j hj
    obtain ⟨hj,ht⟩ := h.lost ((List.mem_append.mp hj).resolve_right (hes j))
    refine ⟨(hr _).mpr (Or.inr hj),?_⟩
    intro t hl
    rcases (hlive t j).mp hl with ⟨_,rfl⟩ | hl
    · exact hn hj
    · exact ht t hl
  · intro t j ht
    rcases ht with ht | ht
    · rcases (hlive t j).mp ht with ⟨rfl,_⟩ | ht
      · simpa [Action.draws] using Or.inr hm
      · exact h.drawn_later _ (Or.inl ht)
    · exact h.drawn_later _ (Or.inr (hf.retired t j ht))

/-- The job behind a live token comes to an end, and the token is retired. -/
theorem conclude {s : Store} {token : DispatchToken} (h : Matched past es q)
    (hq : q.tokens.Sound) (hlive : q.tokens.live[token]? = some job) (a : Action) (uptime : Nat)
    (hr : ∀ i, s.Running i ↔ job ≠ i ∧ q.store.Running i) :
    Matched (past ++ [a]) (es ++ [.concluded token job status result now])
      ⟨s,(q.tokens.retire uptime token).2⟩ := by
  obtain ⟨_,_,_,_,_,hret⟩ := Registry.retire_cases hq uptime hlive
  have hiff := Registry.retire_live hq uptime hlive
  constructor
  · intro t j ht
    obtain ⟨hne,ht⟩ := (hiff t j).mp ht
    refine (hr j).mpr ⟨?_,h.live ht⟩
    rintro rfl
    exact hne (h.single hlive ht)
  · intro t u j ht hu
    exact h.single ((hiff t j).mp ht).2 ((hiff u j).mp hu).2
  · intro t j ht
    rcases hret t j ht with ⟨rfl,rfl⟩ | ⟨_,ht⟩
    · exact ⟨status,result,now,List.mem_append_right _ List.mem_cons_self⟩
    · exact h.retired_later _ ht
  · intro j hd hrun
    obtain ⟨hne,hrun⟩ := (hr j).mp hrun
    rcases h.covered hd.past hrun with ⟨t,ht⟩ | hm
    · refine Or.inl ⟨t,(hiff t j).mpr ⟨?_,ht⟩⟩
      rintro rfl
      rw [hlive] at ht
      exact hne (Option.some.inj ht)
    · exact Or.inr (List.mem_append_left _ hm)
  · intro j hm
    obtain ⟨hrun,ht⟩ := h.lost ((List.mem_append.mp hm).resolve_right (by simp))
    refine ⟨(hr j).mpr ⟨?_,hrun⟩,fun t hl => ht t ((hiff t j).mp hl).2⟩
    rintro rfl
    exact ht token hlive
  · intro t j ht
    rcases ht with ht | ht
    · exact h.drawn_later a (Or.inl ((hiff t j).mp ht).2)
    · rcases hret t j ht with ⟨rfl,rfl⟩ | ⟨_,ht⟩
      · exact h.drawn_later a (Or.inl hlive)
      · exact h.drawn_later a (Or.inr ht)

end Matched

/-- A job that is claimed was waiting. -/
theorem waiting {s : Store} {f : ClaimFilter} (found : s.find? old.id = some old)
    (accepts : f.accepts old = true) :
    ¬s.Running old.id :=
  running_not_of found (by simp [accepts_pending accepts])

theorem taken_running {s t : Store} {old : Job} (sets : s.Sets t old.id (old.taken now))
    (i : JobId) :
    t.Running i ↔ old.id = i ∨ s.Running i := by
  rw [sets.running]
  by_cases hi : old.id = i <;> simp [hi,Job.taken]

/-- A record that takes the place of one that was not running, and that is not running either. -/
theorem still_waiting {s t : Store} {id : JobId} (sets : s.Sets t id new) (hs : ¬s.Running id)
    (hn : new.status ≠ .running) (i : JobId) : t.Running i ↔ s.Running i := by
  rw [sets.running]
  split
  · rename_i hi
    subst hi
    exact iff_of_false hn hs
  · rfl

/-- A record that is put to an end does not run, and the others do as before. -/
theorem ended_running {s t : Store} {id : JobId} {old : Job} {status : JobStatus}
    (terminal : status.isTerminal = true)
    (sets : s.Sets t id (old.ended status result now)) (i : JobId) :
    t.Running i ↔ id ≠ i ∧ s.Running i := by
  rw [sets.running]
  split
  · rename_i hi
    refine iff_of_false ?_ (fun hne => hne.1 hi)
    intro hs
    simp only [Job.ended] at hs
    simp [hs,JobStatus.isTerminal] at terminal
  · rename_i hi
    exact ⟨fun hr => ⟨hi,hr⟩,And.right⟩

theorem canceled_running {s t : Store} {id : JobId} {old : Job} (found : s.find? id = some old)
    (sets : s.Sets t id old.cancel) (i : JobId) : t.Running i ↔ s.Running i := by
  rw [sets.running]
  split
  · rename_i hi
    subst hi
    simp [Running,found,Job.cancel]
  · rfl

theorem Effect.matched {q p : Queue} (he : Effect q a es' p) (hq : Regular q)
    (h : Matched past es q) : Matched (past ++ [a]) (es ++ es') p := by
  cases he with
  | idle keeps => exact h.steady _ (fun i => keeps.running) (by simp)
  | @enqueued _ _ _ _ _ id absent _ sets =>
    have hn : ¬q.store.Running id := by
      rintro ⟨r,hr,_⟩
      rw [absent] at hr
      cases hr
    exact h.steady _ (still_waiting sets hn (by simp [Job.make])) (by simp)
  | claimed found accepts _ issued sets =>
    exact h.issue hq.sound issued (waiting found accepts) (taken_running sets) (by simp)
  | unnamed found accepts taken sets =>
    exact h.strand _ (waiting found accepts) (taken_running sets) (by simp)
      (fun hd => absurd taken (h.issues hq hd _))
  | released found accepts sets =>
    exact h.steady _ (still_waiting sets (waiting found accepts) (by simp [Job.returned]))
      (by simp)
  | stranded found accepts sets =>
    exact h.strand _ (waiting found accepts) (taken_running sets) (by simp) (by simp)
  | concluded live _ _ terminal sets =>
    exact h.conclude hq.sound live _ _ (ended_running terminal sets)
  | lapsed live found running _ => exact absurd (h.live live) (running_not_of found running)
  | canceled found sets => exact h.steady _ (canceled_running found sets) (by simp)

theorem matched (disk : Disk) (root : Option Path) (run : List Action) :
    Matched run ((start disk root).history run) ((start disk root).after run) :=
  effect_induction (P := Matched) (start_regular disk root) (matched_start disk root)
    (fun _ _ _ _ _ _ hq h he => he.matched hq h) run

/-- After every run the live tokens name the running jobs, one token each, but for the jobs
that were left behind by a request that could neither hand them out nor release them; and a
retired token names a job that came to an end. -/
theorem tokens_match_claims (disk : Disk) (root : Option Path) (run : List Action)
    (hd : DistinctDraws run) :
    (∀ (t : DispatchToken) j, ((start disk root).after run).tokens.live[t]? = some j →
      ∃ r, ((start disk root).after run).store.find? j = some r ∧ r.status = .running) ∧
    (∀ (t u : DispatchToken) j, ((start disk root).after run).tokens.live[t]? = some j →
      ((start disk root).after run).tokens.live[u]? = some j → t = u) ∧
    (∀ (t : DispatchToken) j, ((start disk root).after run).tokens.retired[t]? = some j →
      ∃ r, ((start disk root).after run).store.find? j = some r ∧
        (r.status = .finished ∨ r.status = .failed)) ∧
    ∀ j r, ((start disk root).after run).store.find? j = some r → r.status = .running →
      (∃! t : DispatchToken, ((start disk root).after run).tokens.live[t]? = some j) ∨
      .stranded j ∈ (start disk root).history run ∧
        ∀ t : DispatchToken, ((start disk root).after run).tokens.live[t]? ≠ some j := by
  have h := matched disk root run
  refine ⟨fun t j => h.live,fun t u j => h.single,?_,?_⟩
  · intro t j ht
    obtain ⟨status,result,now,hm⟩ := h.retired ht
    obtain ⟨hs,r,hr,rfl,_⟩ := (told disk root run).ended hm
    refine ⟨r,hr,?_⟩
    cases hst : r.status <;> simp [hst,JobStatus.isTerminal] at hs ⊢
  · intro j r hr hs
    rcases h.covered hd ⟨r,hr,hs⟩ with ⟨t,ht⟩ | hm
    · exact Or.inl ⟨t,ht,fun u hu => h.single hu ht⟩
    · exact Or.inr ⟨hm,(h.lost hm).2⟩

theorem chained_distinct : DistinctDraws Sample.chained := by
  refine ⟨by decide,?_⟩
  intro r draws f hm
  simp only [Sample.chained,Sample.claimed,List.cons_append,List.nil_append,List.mem_cons,
    reduceCtorEq,Action.request.injEq,false_or,List.not_mem_nil,or_false] at hm
  simp [hm]

namespace Sample

def job (id : JobId) (ds : List JobId) : Job :=
  .make id ⟨"build","x86"⟩ .null ds .epoch

/-- A store in memory, and the tokens beside it. -/
def holding (records : Table JobId Job) (pending : List JobId) (tokens : Registry) : Queue :=
  ⟨⟨.empty,none,⟨records,pending⟩,[],[]⟩,tokens⟩

def bound : Registry :=
  { Registry.fresh with live := Registry.fresh.live.insert (ticket 1) parent }

theorem claimed_step :
    (holding [(parent,job parent [])] [parent] .fresh).request (reading 0) [ticket 1] anyWork =
    (.ok (some ⟨ticket 1,parent,⟨"build","x86"⟩,.null,none⟩),
      holding [(parent,(job parent []).taken .epoch)] [] bound) := by
  let q := holding [(parent,job parent [])] [parent] .fresh
  let s := (holding [(parent,(job parent []).taken .epoch)] [] .fresh).store
  have hn : q.store.next anyWork .epoch = (.ok (some ((job parent []).taken .epoch)),s) := rfl
  have hd : dynamicArgs s ((job parent []).taken .epoch) = (.ok none,s) := rfl
  have hi : q.tokens.issue? 0 [ticket 1] parent = some (ticket 1,bound) :=
    Registry.issue?_fresh 0 (ticket 1) parent
  rw [request_issued (q := q) (r := reading 0) hn hd hi]
  rfl

theorem claimed_after : (start .empty none).after claimed =
    holding [(parent,(job parent []).taken .epoch)] [] bound := by
  have hq : (start .empty none).after claimed =
    ((holding [(parent,job parent [])] [parent] .fresh).request (reading 0) [ticket 1]
      anyWork).2 := rfl
  rw [hq,claimed_step]

def built : Job :=
  ((job parent []).taken .epoch).ended .finished (some (.text "done")) .epoch

theorem concluded_step :
    (holding [(parent,(job parent []).taken .epoch)] [] bound).conclude (reading 1) (ticket 1) none
      (some (.text "done")) =
    (.ok (),holding [(parent,built)] [] (bound.retire 1 (ticket 1)).2) := by
  have hl : (holding [(parent,(job parent []).taken .epoch)] [] bound).tokens.resolveLive
      (ticket 1) = .ok parent := by
    simp [Registry.resolveLive_ok,holding,bound]
  simp only [conclude,hl]
  rfl

theorem chained_after : (start .empty none).after chained =
    holding [(parent,built),(child,job child [parent])] [child] (bound.retire 1 (ticket 1)).2 := by
  rw [chained,after_append,claimed_after,after,step,concluded_step]
  rfl

theorem bound_live : bound.live[ticket 1]? = some parent :=
  Std.HashMap.getElem?_insert_self

theorem bound_retired : (bound.retire 1 (ticket 1)).2.retired[ticket 1]? = some parent := by
  have hq := after_regular (start_regular .empty none) claimed
  rw [claimed_after] at hq
  exact (Registry.retire_retired hq.sound (by decide) (by decide) 1 bound_live).own

end Sample

open Sample in
/-- While the job runs its token is live, and no other is; once it has ended the token is retired. -/
theorem tokens_match_claims_chained : DistinctDraws claimed ∧ DistinctDraws chained ∧
    ((start .empty none).after claimed).tokens.live[ticket 1]? = some parent ∧
    (∃ r, ((start .empty none).after claimed).store.find? parent = some r ∧ r.status = .running) ∧
    (∀ t : DispatchToken, ((start .empty none).after claimed).tokens.live[t]? = some parent →
      t = ticket 1) ∧
    ((start .empty none).after chained).tokens.retired[ticket 1]? = some parent ∧
    ∃ r, ((start .empty none).after chained).store.find? parent = some r ∧
      (r.status = .finished ∨ r.status = .failed) := by
  have hclaimed : DistinctDraws claimed := chained_distinct.past
  have hlive : ((start .empty none).after claimed).tokens.live[ticket 1]? = some parent := by
    rw [claimed_after]
    exact bound_live
  have hretired : ((start .empty none).after chained).tokens.retired[ticket 1]? = some parent := by
    rw [chained_after]
    exact bound_retired
  obtain ⟨hruns,hone,_⟩ := tokens_match_claims .empty none claimed hclaimed
  obtain ⟨_,_,hended,_⟩ := tokens_match_claims .empty none chained chained_distinct
  exact ⟨hclaimed,chained_distinct,hlive,hruns _ _ hlive,fun t ht => hone t _ _ ht hlive,hretired,
    hended _ _ hretired⟩

end Queue

end BuildFarm
