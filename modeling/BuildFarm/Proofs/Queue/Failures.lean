import BuildFarm.Proofs.Queue.Conclusions

namespace BuildFarm

namespace Store

/-- What a call that failed has done to the store. -/
structure Fails (s t : Store) : Prop where
  index : t.index = s.index
  disk : t.disk = s.disk ∨ ∃ root id bs, s.root = some root ∧
    s.disk.save (tempPath root id) bs = .ok t.disk

theorem writeRecord_fails {s t : Store} {root : Path} (hr : s.root = some root)
    (h : s.writeRecord root j = (.error e,t)) : Fails s t := by
  unfold writeRecord at h
  dsimp only at h
  split at h
  · cases h
    exact ⟨rfl,Or.inl rfl⟩
  · rename_i disk hs
    split at h
    · cases h
      exact ⟨rfl,Or.inr ⟨root,j.id,_,hr,hs⟩⟩
    · cases h

theorem failWrite_fails {s : Store} {root : Path} (hr : s.root = some root) (j : Job)
    (f : WriteFailure) : Fails s (s.failWrite root j f).2 := by
  refine ⟨rfl,?_⟩
  unfold failWrite
  dsimp only
  cases f.left with
  | none => exact Or.inl rfl
  | some bs =>
    cases hs : s.disk.save (tempPath root j.id) bs with
    | error e => exact Or.inl (by simp [hs,Except.toOption])
    | ok disk => exact Or.inr ⟨root,j.id,bs,hr,by simp [hs,Except.toOption]⟩

theorem persist_fails {s t : Store} (h : s.persist j = (.error e,t)) : Fails s t := by
  simp only [persist] at h
  split at h
  · cases h
  · rename_i root hr
    split at h
    · exact writeRecord_fails hr h
    · rename_i rest _
      have hw := writeRecord_fails (s := { s with failures := rest }) hr h
      exact ⟨hw.index,hw.disk⟩
    · rename_i f rest _
      have hw := failWrite_fails (s := { s with failures := rest }) hr j f
      rw [h] at hw
      exact ⟨hw.index,hw.disk⟩

theorem entered_fails {s t : Store} {a : α} {next : Index → Index}
    (h : s.entered j a next = (.error e,t)) : Fails s t := by
  obtain ⟨_,_,hp,hr⟩ | ⟨_,_,hr⟩ := entered_cases s j a next <;> cases hr.symm.trans h
  exact persist_fails hp

theorem update_fails {s t : Store} {id : JobId} (h : s.update id cs = (.error e,t)) :
    Fails s t := by
  rcases guarded_cases h with ⟨fs,_,_,rfl,_⟩ | ⟨fs,h,_⟩
  · exact ⟨rfl,Or.inl rfl⟩
  · rw [updateRecord_eq] at h
    split at h
    · cases h
      exact ⟨rfl,Or.inl rfl⟩
    · split at h
      · cases h
        exact ⟨rfl,Or.inl rfl⟩
      · have hw := entered_fails h
        exact ⟨hw.index,hw.disk⟩

theorem next_fails {s t : Store} (h : s.next f now = (.error e,t)) : Fails s t := by
  rcases guarded_cases h with ⟨fs,_,_,rfl,_⟩ | ⟨fs,h,_⟩
  · exact ⟨rfl,Or.inl rfl⟩
  · rw [claim_eq] at h
    split at h
    · cases h
    · have hw := entered_fails h
      exact ⟨hw.index,hw.disk⟩

/-- Where no fault is planned a record that is there is read, and nothing is changed. -/
theorem get_known {s : Store} {id : JobId} (hf : s.faults = []) (h : s.find? id = some j) :
    s.get id = (.ok j,s) := by
  rw [Store.get,guarded_faultless hf,getRecord,h]

end Store

namespace Queue

open Store

theorem results_known {s : Store} (hf : s.faults = []) {ds : List JobId}
    (h : ∀ d ∈ ds, (s.find? d).isSome) (read : List (JobId × Json)) :
    ∃ rs, results s read ds = (.ok rs,s) := by
  induction ds generalizing read with
  | nil => exact ⟨read,rfl⟩
  | cons d ds ih =>
    rw [List.forall_mem_cons] at h
    obtain ⟨j,hj⟩ := Option.isSome_iff_exists.mp h.1
    rw [results,get_known hf hj]
    exact ih h.2 _

theorem dynamicArgs_known {s : Store} (hf : s.faults = [])
    (h : ∀ d ∈ j.dependencies, (s.find? d).isSome) : ∃ extra, dynamicArgs s j = (.ok extra,s) := by
  obtain ⟨rs,hr⟩ := results_known hf h []
  unfold dynamicArgs
  rw [hr]
  split <;> exact ⟨_,rfl⟩

/-- What a call that failed has done to the queue. -/
structure Fails (q p : Queue) : Prop where
  store : q.store.Fails p.store
  tokens : p.tokens = q.tokens

/-- A claim fails only before the record is changed, if the store can be read and some token that
was drawn is free. -/
theorem request_fails {q p : Queue} (hq : Regular q) (hf : q.store.faults = [])
    (hfree : ∃ t ∈ draws, q.tokens.isTaken t = false)
    (h : q.request r draws f = (.error e,p)) : Fails q p := by
  simp only [request] at h
  cases hn : q.store.next f r.now with
  | mk x s =>
    obtain ⟨hfollows,hx⟩ := next_cases hq.outages hn
    rw [hn] at h
    rcases hx with ⟨m,rfl,_⟩ | ⟨rfl,_⟩ | ⟨id,old,hold,_,hd,rfl,hi⟩
    · cases h
      exact ⟨next_fails hn,rfl⟩
    · cases h
    · have hs : q.store.Sets s id (old.taken r.now) := .of_insert (congrArg Index.records hi)
      have hknown : ∀ d ∈ (old.taken r.now).dependencies, (s.find? d).isSome := by
        intro d hm
        obtain ⟨k,hk,_⟩ := dependenciesFinished_mem hd hm
        rw [hs d]
        split
        · rfl
        · rw [hk]
          rfl
      obtain ⟨extra,hextra⟩ := dynamicArgs_known (hfollows.faultless hf) hknown
      dsimp only at h
      rw [hextra] at h
      dsimp only at h
      cases ht : q.tokens.issue? r.uptime draws (old.taken r.now).id with
      | some p =>
        rw [ht] at h
        cases h
      | none =>
        obtain ⟨t,hm,htaken⟩ := hfree
        exact absurd ht (Registry.issue?_free hq.sound hm htaken _ _)

/-- A conclusion fails without retiring its token, since the jobs of live tokens run. -/
theorem conclude_fails {q p : Queue} (ho : q.store.OnlyOutages)
    (hrun : ∀ (t : DispatchToken) job, q.tokens.live[t]? = some job → q.store.Running job)
    (h : q.conclude r token status result = (.error e,p)) : Fails q p := by
  simp only [conclude] at h
  cases hl : q.tokens.resolveLive token with
  | error x =>
    rw [hl] at h
    cases h
    exact ⟨⟨rfl,Or.inl rfl⟩,rfl⟩
  | ok job =>
    have hlive := Registry.resolveLive_ok.mp hl
    rw [hl] at h
    dsimp only at h
    by_cases ht : (status.getD .finished).isTerminal = true
    · rw [if_pos ht] at h
      have hnot : (q.conclude r token status result).1 ≠ .error .claimConcluded :=
        conclude_running ho hlive (hrun token job hlive)
      simp only [conclude,hl,ht,↓reduceIte] at hnot
      cases hu : q.store.update job [.conclude (status.getD .finished) result r.now] with
      | mk x t =>
        rw [hu] at h hnot
        cases x with
        | ok k => cases h
        | error x =>
          cases x
          case invalidTransition => exact absurd rfl hnot
          all_goals
            cases h
            exact ⟨update_fails hu,rfl⟩
    · rw [if_neg ht] at h
      cases h
      exact ⟨⟨rfl,Or.inl rfl⟩,rfl⟩

/-- Where no fault is planned, asking about a token changes nothing. -/
theorem isCanceled_same {q : Queue} (hf : q.store.faults = []) (t : DispatchToken) :
    (q.isCanceled t).2 = q := by
  have hget (id : JobId) : (q.store.get id).2 = q.store := by
    rw [Store.get,guarded_faultless hf,getRecord]
    split <;> rfl
  rcases isCanceled_step q t with h | ⟨id,h⟩
  · exact h
  · rw [h,hget id]

end Queue

end BuildFarm
