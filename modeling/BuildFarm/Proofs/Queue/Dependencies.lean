import BuildFarm.Proofs.Queue.Tokens

namespace BuildFarm

namespace Store

/-- The results of dependencies that all differ, in the order in which they were declared. -/
theorem resultsFor_nodup (s : Store) {j : Job} (h : j.dependencies.Nodup) :
    s.resultsFor j = if j.dependencies = [] then none
      else some (j.dependencies.map (fun d => (d,s.resultOf d))) := by
  simp only [resultsFor,List.isEmpty_iff]
  split
  · rfl
  · rw [Entries.foldl_set s.resultOf h (by simp)]
    simp

end Store

namespace Queue

open Store

/-- The record behind a job that is handed out, as it was before. -/
theorem request_ok {q : Queue} (hq : Regular q) (h : (q.request r draws f).1 = .ok (some c)) :
    ∃ old, q.store.find? c.id = some old ∧ q.store.dependenciesFinished old = true ∧
      c.type = old.type ∧ c.args = old.args ∧ c.dynamicArgs = q.store.resultsFor old := by
  have he := (step_effect hq (.request r draws f)).2.2
  have hes : q.events (.request r draws f) = [.claimed c] := by simp [events,h]
  rw [hes] at he
  generalize q.step (.request r draws f) = p at he
  cases he with
  | claimed found _ finished _ _ => exact ⟨_,found,finished,rfl,rfl,rfl⟩

theorem results_nodup {s : Store} {read : List (JobId × Json)} (hn : (read.map Prod.fst).Nodup)
    (h : (results s read ds).1 = .ok rs) : (rs.map Prod.fst).Nodup := by
  induction ds generalizing s read with
  | nil =>
    cases h
    exact hn
  | cons d ds ih =>
    rw [results] at h
    split at h
    · cases h
    · exact ih (Entries.set_nodup hn _ _) h

/-- A dependency has one result among those that a claim is handed out with. -/
theorem request_nodup {q : Queue} (h : (q.request r draws f).1 = .ok (some c))
    (hrs : c.dynamicArgs = some rs) : (rs.map Prod.fst).Nodup := by
  unfold request at h
  split at h
  · cases h
  · cases h
  split at h
  · cases h
  rename_i j _ _ extra _ hextra
  split at h
  · cases h
  cases h
  obtain rfl : extra = some rs := hrs
  unfold dynamicArgs at hextra
  split at hextra
  · cases hextra
  split at hextra
  · cases hextra
  rename_i hresults
  cases hextra
  have hnil : (([] : List (JobId × Json)).map Prod.fst).Nodup := List.nodup_nil
  exact results_nodup hnil (congrArg Prod.fst hresults)

/-- A job that was concluded well is told of with the result that its dependents get. -/
theorem Told.finished {es : List Event} {q : Queue} (h : Told es q) {d : JobId}
    (hr : q.store.find? d = some r) (hs : r.status = .finished) :
    ∃ token result now, .concluded token d .finished result now ∈ es ∧
      q.store.resultOf d = .ofOption result := by
  obtain ⟨token,now,hm⟩ := h.conclusion hr (by simp [hs,JobStatus.isTerminal])
  exact ⟨token,r.result,now,hs ▸ hm,by simp [resultOf,hr]⟩

/-- No job is concluded in two ways. -/
theorem Told.concluded_unique {es : List Event} {q : Queue} (h : Told es q) {job : JobId}
    (hm : .concluded token job status result now ∈ es)
    (hm' : .concluded token' job status' result' now' ∈ es) :
    status = status' ∧ result = result' ∧ now = now' := by
  obtain ⟨_,r,hr,hs,hres,hf⟩ := h.ended hm
  obtain ⟨_,r',hr',hs',hres',hf'⟩ := h.ended hm'
  rw [hr] at hr'
  cases hr'
  exact ⟨hs.symm.trans hs',hres.symm.trans hres',Option.some.inj (hf.symm.trans hf')⟩

/-- The dependencies of a job that is handed out, as they were declared and as they were
concluded before. -/
structure Fed (es : List Event) (c : Claim) (ds : List JobId) : Prop where
  concluded : ∀ d ∈ ds, ∃ token result now, .concluded token d .finished result now ∈ es
  bare : c.dynamicArgs = none ↔ ds = []
  keys : ∀ args, c.dynamicArgs = some args → args.map Prod.fst = ds.eraseDups
  values : ∀ args, c.dynamicArgs = some args → ∀ d value, (d,value) ∈ args →
    ∃ token result now, .concluded token d .finished result now ∈ es ∧ value = .ofOption result

theorem Told.fed {es : List Event} {q : Queue} (h : Told es q) (hq : Regular q)
    (hc : (q.request r draws f).1 = .ok (some c)) (hm : .enqueued c.id type args ds ∈ es) :
    c.type = type ∧ c.args = args ∧ Fed es c ds := by
  obtain ⟨old,hold,hf,ht,ha,hx⟩ := request_ok hq hc
  obtain ⟨r,hr,hrt,hra,hrd⟩ := h.made hm
  rw [hold] at hr
  cases hr
  have hall : ∀ d ∈ ds, ∃ token result now, .concluded token d .finished result now ∈ es ∧
      q.store.resultOf d = .ofOption result := by
    intro d hd
    rw [← List.mem_eraseDups,← hrd] at hd
    obtain ⟨k,hk,hs⟩ := dependenciesFinished_mem hf hd
    exact h.finished hk hs
  have hnil : old.dependencies = [] ↔ ds = [] := by
    rw [hrd,List.eq_nil_iff_forall_not_mem,List.eq_nil_iff_forall_not_mem]
    simp only [List.mem_eraseDups]
  rw [resultsFor_nodup _ (hrd ▸ Entries.eraseDups_nodup ds)] at hx
  refine ⟨ht.trans hrt,ha.trans hra,?_,?_,?_,?_⟩
  · intro d hd
    obtain ⟨token,result,now,hm,_⟩ := hall d hd
    exact ⟨token,result,now,hm⟩
  · rw [← hnil,hx]
    split <;> simp_all
  · intro args hargs
    rw [hx] at hargs
    split at hargs
    · cases hargs
    · cases hargs
      simp [hrd,Function.comp_def]
  · intro args hargs d value hv
    rw [hx] at hargs
    split at hargs
    · cases hargs
    · cases hargs
      obtain ⟨e,hd,he⟩ := List.mem_map.mp hv
      cases he
      obtain ⟨token,result,now,hm,hres⟩ := hall d (List.mem_eraseDups.mp (hrd ▸ hd))
      exact ⟨token,result,now,hm,hres⟩

/-- A job is handed out after its dependencies were concluded well and with their results; so
one behind a job that was concluded badly is not handed out, however the run goes on. -/
theorem claim_follows_dependencies (disk : Disk) (root : Option Path) (past : List Action) :
    (∀ r draws f c, (((start disk root).after past).request r draws f).1 = .ok (some c) →
      (∃ type args ds, .enqueued c.id type args ds ∈ (start disk root).history past) ∧
      ∀ type args ds, .enqueued c.id type args ds ∈ (start disk root).history past →
        c.type = type ∧ c.args = args ∧ Fed ((start disk root).history past) c ds) ∧
    ∀ token d result now,
      .concluded token d .failed result now ∈ (start disk root).history past →
      ∀ future r draws f c,
        (((start disk root).after (past ++ future)).request r draws f).1 = .ok (some c) →
        ∀ type args ds, .enqueued c.id type args ds ∈ (start disk root).history (past ++ future) →
          d ∉ ds := by
  constructor
  · intro r draws f c h
    have hq := after_regular (start_regular disk root) past
    have ht := told disk root past
    obtain ⟨old,hold,_⟩ := request_ok hq h
    exact ⟨ht.origin hold,fun type args ds hm => ht.fed hq h hm⟩
  · intro token d result now hfail future r draws f c h type args ds hmade hd
    have ht := told disk root (past ++ future)
    have hfed := (ht.fed (after_regular (start_regular disk root) _) h hmade).2.2
    obtain ⟨token',result',now',hm⟩ := hfed.concluded d hd
    have hs := (ht.concluded_unique hm (mem_history_append hfail future)).1
    cases hs

/-- When the first token is retired, another one is issued for the second job. -/
theorem chained_issues : ∃ tokens, (Sample.bound.retire 1 (Sample.ticket 1)).2.issue? 2
    [Sample.ticket 2] Sample.child = some (Sample.ticket 2,tokens) := by
  have hd : DistinctDraws (Sample.chained ++
      [.request (Sample.reading 2) [Sample.ticket 2] Sample.anyWork]) := by
    refine ⟨by decide,?_⟩
    intro r draws f hm
    rcases List.mem_append.mp hm with hm | hm
    · exact chained_distinct.nonempty r draws f hm
    · simp at hm
      simp [hm]
  have hq := after_regular (start_regular .empty none) Sample.chained
  have hi := (matched .empty none Sample.chained).issues hq hd Sample.child
  obtain ⟨⟨token,tokens⟩,hi⟩ := Option.ne_none_iff_exists'.mp hi
  obtain ⟨hdrawn,_⟩ := Registry.issue?_cases hq.sound hi
  obtain rfl := List.mem_singleton.mp hdrawn
  rw [Sample.chained_after] at hi
  exact ⟨tokens,hi⟩

theorem claim_follows_dependencies_chained :
    ∃ c, (((start .empty none).after Sample.chained).request (Sample.reading 2) [Sample.ticket 2]
        Sample.anyWork).1 = .ok (some c) ∧
      c.dynamicArgs = some [(Sample.parent,.text "done")] ∧
      ∀ type args ds, .enqueued c.id type args ds ∈ (start .empty none).history Sample.chained →
        c.type = type ∧ c.args = args ∧ Fed ((start .empty none).history Sample.chained) c ds := by
  let q := Sample.holding [(Sample.parent,Sample.built),
    (Sample.child,Sample.job Sample.child [Sample.parent])] [Sample.child]
    (Sample.bound.retire 1 (Sample.ticket 1)).2
  have hn : q.store.next Sample.anyWork .epoch =
      (.ok (some ((Sample.job Sample.child [Sample.parent]).taken .epoch)),
        (Sample.holding [(Sample.parent,Sample.built),
          (Sample.child,(Sample.job Sample.child [Sample.parent]).taken .epoch)] []
          Sample.bound).store) := rfl
  obtain ⟨tokens,hi⟩ := chained_issues
  have hc : (((start .empty none).after Sample.chained).request (Sample.reading 2)
      [Sample.ticket 2] Sample.anyWork).1 = .ok (some ⟨Sample.ticket 2,Sample.child,⟨"build","x86"⟩,
        .null,some [(Sample.parent,.text "done")]⟩) := by
    rw [Sample.chained_after,request_issued (q := q) (r := Sample.reading 2) hn rfl hi]
    rfl
  exact ⟨_,hc,rfl,((claim_follows_dependencies .empty none Sample.chained).1 _ _ _ _ hc).2⟩

end Queue

end BuildFarm
