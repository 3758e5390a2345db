import BuildFarm.Proofs.Queue.Conclusions

namespace BuildFarm

namespace Registry

/-- The token stands for the job, live or retired. -/
def Names (r : Registry) (t : DispatchToken) (job : JobId) : Prop :=
  r.live[t]? = some job ∨ r.retired[t]? = some job

theorem names_of_mem {r : Registry} (h : t ∈ r.live ∨ t ∈ r.retired) : ∃ job, r.Names t job := by
  simp only [Std.HashMap.mem_iff_isSome_getElem?,Option.isSome_iff_exists] at h
  rcases h with ⟨job,h⟩ | ⟨job,h⟩
  · exact ⟨job,Or.inl h⟩
  · exact ⟨job,Or.inr h⟩

theorem Sound.resolve {r : Registry} (hs : Sound r) (h : r.Names t job) :
    r.resolve t = .ok job := by
  rcases h with h | h
  · rw [Registry.resolve,h]
  · have hn : r.live[t]? = none := by
      refine Std.HashMap.getElem?_eq_none (fun hm => hs.apart t hm ?_)
      rw [Std.HashMap.mem_iff_isSome_getElem?,h]
      rfl
    rw [Registry.resolve,hn,h]

/-- A token that is issued stood for nothing before, and every other stands for what it did. -/
theorem issue?_names {r s : Registry} (hs : Sound r) (hi : r.issue? now draws job = some (t,s))
    (h : s.Names u i) : (u = t ∧ i = job) ∨ (u ≠ t ∧ r.Names u i) := by
  obtain ⟨_,hnew,_,hf,hl,hsound,_⟩ := issue?_cases hs hi
  rcases h with h | h
  · rcases (issue?_live hs hi u i).mp h with h | h
    · exact Or.inl h
    · refine Or.inr ⟨?_,Or.inl h⟩
      rintro rfl
      rw [Std.HashMap.getElem?_eq_none hnew] at h
      cases h
  · refine Or.inr ⟨?_,Or.inr (hf.retired u i h)⟩
    rintro rfl
    refine hsound.apart u ?_ (Std.HashMap.mem_iff_isSome_getElem?.mpr (by rw [h]; rfl))
    rw [hl]
    exact Std.HashMap.mem_insert_self

theorem retire_names {r : Registry} (hs : Sound r) (now : Nat) (hl : r.live[t]? = some job)
    (h : (r.retire now t).2.Names u i) : r.Names u i := by
  rcases h with h | h
  · exact Or.inl ((retire_live hs now hl u i).mp h).2
  · rcases (retire_cases hs now hl).2.2.2.2.2 u i h with ⟨rfl,rfl⟩ | ⟨_,h⟩
    · exact Or.inl hl
    · exact Or.inr h

end Registry

namespace Event

/-- The job that was handed out under the token. -/
def handedUnder? (t : DispatchToken) : Event → Option JobId
  | .claimed c => if c.token = t then some c.id else none
  | _ => none

end Event

namespace Queue

open Store

/-- The job that was last handed out under the token. -/
def handed? (es : List Event) (t : DispatchToken) : Option JobId :=
  (es.filterMap (Event.handedUnder? t)).getLast?

theorem handed?_append (es es' : List Event) (t : DispatchToken) :
    handed? (es ++ es') t = (handed? es' t).or (handed? es t) := by
  rw [handed?,List.filterMap_append,List.getLast?_append,handed?,handed?]

/-- What a call makes of the flag of a record, and what it tells of it. -/
inductive Flagging (s : Store) (es : List Event) (i : JobId) (r : Job) : Prop
  | kept (before : s.find? i = some r') (same : r.canceled = r'.canceled) (quiet : .canceled i ∉ es)
  | set (before : s.find? i = some r') (flag : r.canceled = true) (told : .canceled i ∈ es)
  | made (before : s.find? i = none) (clear : r.canceled = false) (quiet : .canceled i ∉ es)

theorem Flagging.of_sets {s t : Store} {id i : JobId} {es : List Event} (hs : s.Sets t id new)
    (found : s.find? id = some old) (same : new.canceled = old.canceled)
    (quiet : .canceled i ∉ es) (h : t.find? i = some r) : Flagging s es i r := by
  by_cases hi : id = i
  · subst hi
    rw [hs.self] at h
    cases h
    exact .kept found same quiet
  · exact .kept ((hs.other hi).symm.trans h) rfl quiet

theorem Effect.flagging {q p : Queue} (he : Effect q a es p) (h : p.store.find? i = some r) :
    Flagging q.store es i r := by
  cases he with
  | idle keeps => exact .kept ((keeps i).symm.trans h) rfl (by simp)
  | @enqueued _ _ _ _ _ id absent _ sets =>
    by_cases hi : id = i
    · subst hi
      rw [sets.self] at h
      cases h
      exact .made absent rfl (by simp)
    · exact .kept ((sets.other hi).symm.trans h) rfl (by simp)
  | claimed found _ _ _ sets => exact .of_sets sets found rfl (by simp) h
  | unnamed found _ _ sets => exact .of_sets sets found rfl (by simp) h
  | released found _ sets => exact .of_sets sets found rfl (by simp) h
  | stranded found _ sets => exact .of_sets sets found rfl (by simp) h
  | concluded _ found _ _ sets => exact .of_sets sets found rfl (by simp) h
  | lapsed _ _ _ keeps => exact .kept ((keeps i).symm.trans h) rfl (by simp)
  | @canceled old _ id found sets =>
    by_cases hi : id = i
    · subst hi
      rw [sets.self] at h
      cases h
      exact .set found rfl List.mem_cons_self
    · refine .kept ((sets.other hi).symm.trans h) rfl ?_
      simpa using fun he => hi he.symm

/-- A call that tells of a cancellation has flagged the record. -/
theorem Effect.flagged {q p : Queue} (he : Effect q a es p) (h : .canceled i ∈ es) :
    ∃ r, p.store.find? i = some r ∧ r.canceled = true := by
  cases he with
  | canceled _ sets =>
    cases List.mem_singleton.mp h
    exact ⟨_,sets.self,rfl⟩
  | _ => simp at h

/-- Whatever a token stands for it stood for before, or the call has handed it out for that. -/
theorem Effect.names {q p : Queue} {t : DispatchToken} (he : Effect q a es p) (hq : Regular q)
    (h : p.tokens.Names t job) :
    (q.tokens.Names t job ∧ handed? es t = none) ∨ handed? es t = some job := by
  cases he with
  | claimed _ _ _ issued _ =>
    rcases Registry.issue?_names hq.sound issued h with ⟨rfl,rfl⟩ | ⟨hne,h⟩
    · exact Or.inr (by simp [handed?,Event.handedUnder?])
    · exact Or.inl ⟨h,by simp [handed?,Event.handedUnder?,Ne.symm hne]⟩
  | concluded live => exact Or.inl ⟨Registry.retire_names hq.sound _ live h,rfl⟩
  | lapsed live => exact Or.inl ⟨Registry.retire_names hq.sound _ live h,rfl⟩
  | _ => exact Or.inl ⟨h,rfl⟩

/-- The flags and the tokens after a run, told by its history. -/
structure Followed (es : List Event) (q : Queue) : Prop where
  flag {i : JobId} {r} : q.store.find? i = some r → (r.canceled = true ↔ .canceled i ∈ es)
  flagged {i : JobId} : .canceled i ∈ es → ∃ r, q.store.find? i = some r ∧ r.canceled = true
  names {t : DispatchToken} {job} : q.tokens.Names t job → handed? es t = some job

theorem followed_start (disk : Disk) (root : Option Path) : Followed [] (start disk root) := by
  refine ⟨nofun,nofun,?_⟩
  intro t job h
  simp [Registry.Names,start,ofStore,Registry.fresh,Registry.empty] at h

theorem Effect.followed {q p : Queue} (he : Effect q a es' p) (hq : Regular q)
    (h : Followed es q) : Followed (es ++ es') p where
  flag := by
    intro i r hr
    rw [List.mem_append]
    cases he.flagging hr with
    | kept before same quiet => rw [same,h.flag before,or_iff_left quiet]
    | set before flag told => exact iff_of_true flag (Or.inr told)
    | made before clear quiet =>
      rw [clear,or_iff_left quiet]
      refine iff_of_false Bool.false_ne_true (fun hm => ?_)
      obtain ⟨r',hr',_⟩ := h.flagged hm
      rw [before] at hr'
      cases hr'
  flagged := by
    intro i hm
    rcases List.mem_append.mp hm with hm | hm
    · obtain ⟨r,hr,hc⟩ := h.flagged hm
      obtain ⟨r',hr',hb⟩ := he.record hr
      exact ⟨r',hr',hb.canceled hc⟩
    · exact he.flagged hm
  names := by
    intro t job ht
    rw [handed?_append]
    rcases he.names hq ht with ⟨ht,hn⟩ | hj
    · rw [hn,Option.none_or]
      exact h.names ht
    · rw [hj,Option.some_or]

theorem followed (disk : Disk) (root : Option Path) (run : List Action) :
    Followed ((start disk root).history run) ((start disk root).after run) :=
  effect_induction (P := fun _ es q => Followed es q) (start_regular disk root)
    (followed_start disk root) (fun _ _ _ _ _ _ hq h he => he.followed hq h) run

/-- The token of a claim is one of those that were drawn for it. -/
theorem Effect.drawn {q p : Queue} (he : Effect q a es p) (hq : Regular q) (h : .claimed c ∈ es) :
    c.token ∈ a.draws ∧ es = [.claimed c] := by
  cases he with
  | claimed _ _ _ issued _ =>
    cases List.mem_singleton.mp h
    exact ⟨(Registry.issue?_cases hq.sound issued).1,rfl⟩
  | _ => simp at h

/-- If no token is drawn twice, none is handed out twice. -/
theorem handed_once (disk : Disk) (root : Option Path) (run : List Action)
    (hd : (run.flatMap Action.draws).Nodup) (hc : .claimed c ∈ (start disk root).history run) :
    handed? ((start disk root).history run) c.token = some c.id := by
  have h := effect_induction (P := fun past es _ =>
    (∀ c, .claimed c ∈ es → c.token ∈ past.flatMap Action.draws) ∧
    ((past.flatMap Action.draws).Nodup → ∀ c, .claimed c ∈ es → handed? es c.token = some c.id))
    (start_regular disk root) ⟨nofun,fun _ => nofun⟩ ?_ run
  · exact h.2 hd c hc
  intro past es q a es' p hq ⟨hdrawn,honce⟩ he
  rw [List.flatMap_append]
  refine ⟨?_,?_⟩
  · intro c hc
    rcases List.mem_append.mp hc with hc | hc
    · exact List.mem_append_left _ (hdrawn c hc)
    · exact List.mem_append_right _ (by simpa using (he.drawn hq hc).1)
  · intro hd c hc
    obtain ⟨hpast,_,hapart⟩ := List.nodup_append.mp hd
    rw [handed?_append]
    rcases List.mem_append.mp hc with hc | hc
    · have hnone : handed? es' c.token = none := by
        rw [handed?,List.getLast?_eq_none_iff,List.filterMap_eq_nil_iff]
        intro e hm
        cases e with
        | claimed c' =>
          have hnew := (he.drawn hq hm).1
          refine if_neg (fun ht => ?_)
          exact hapart _ (hdrawn c hc) _ (by simpa using hnew) ht.symm
        | _ => rfl
      rw [hnone,Option.none_or]
      exact honce hpast c hc
    · rw [(he.drawn hq hc).2]
      simp [handed?,Event.handedUnder?]

/-- The answer about a token is a flag that says whether this holds, unless the store is out. -/
def TellsCanceled (q : Queue) (t : DispatchToken) (p : Prop) : Prop :=
  (∃ b, (q.isCanceled t).1 = .ok b ∧ (b = true ↔ p)) ∨
  q.store.faults ≠ [] ∧ ∃ m, (q.isCanceled t).1 = .error (.store (.storage m))

theorem isCanceled_answer {q : Queue} {t : DispatchToken} (hq : Regular q)
    (ht : q.tokens.Names t job) (hr : q.store.find? job = some r) :
    q.TellsCanceled t (r.canceled = true) := by
  have hg := get_unless_out hq.outages hr
  simp only [TellsCanceled,isCanceled,hq.sound.resolve ht]
  generalize q.store.get job = p at hg ⊢
  obtain ⟨x,s⟩ := p
  obtain rfl | ⟨hf,m,rfl⟩ : x = .ok r ∨ q.store.faults ≠ [] ∧ ∃ m, x = .error (.storage m) := hg
  · exact Or.inl ⟨_,rfl,Iff.rfl⟩
  · exact Or.inr ⟨hf,m,rfl⟩

/-- What is reported about a job has a flag that says whether this holds, unless the store is out. -/
def ReportsCanceled (q : Queue) (job : JobId) (p : Prop) : Prop :=
  (∃ i, (q.info job).1 = .ok i ∧ (i.canceled = true ↔ p)) ∨
  q.store.faults ≠ [] ∧ ∃ m, (q.info job).1 = .error (.store (.storage m))

theorem info_reports {q : Queue} {job : JobId} (ho : q.store.OnlyOutages)
    (hr : q.store.find? job = some r) : q.ReportsCanceled job (r.canceled = true) :=
  (info_answer ho hr).imp_left fun hi => ⟨_,hi,Iff.rfl⟩

theorem info_record {q : Queue} {job : JobId} (ho : q.store.OnlyOutages)
    (hi : (q.info job).1 = .ok i) :
    ∃ r, q.store.find? job = some r ∧ i.canceled = r.canceled := by
  cases hg : q.store.get job with
  | mk x s =>
    simp only [info,hg] at hi
    rcases (get_cases ho hg).2.2 with ⟨m,rfl⟩ | ⟨rfl,_⟩ | ⟨r,rfl,hr⟩ <;> cases hi
    exact ⟨r,hr,rfl⟩

/-- Some call of the run cancels the job and is answered well. -/
def CanceledIn (q : Queue) (run : List Action) (job : JobId) : Prop :=
  ∃ past future, run = past ++ .cancel job :: future ∧ ((q.after past).cancel job).1 = .ok ()

theorem canceled_event {q : Queue} :
    .canceled job ∈ q.events a ↔ a = .cancel job ∧ (q.cancel job).1 = .ok () := by
  cases a with
  | cancel id =>
    simp only [events,Action.cancel.injEq]
    split
    · rename_i u hc
      simp only [List.mem_singleton,Event.canceled.injEq]
      constructor
      · rintro rfl
        exact ⟨rfl,hc⟩
      · exact fun h => h.1.symm
    · rename_i e hc
      refine iff_of_false List.not_mem_nil ?_
      rintro ⟨rfl,h⟩
      rw [hc] at h
      cases h
  | _ =>
    refine iff_of_false (fun h => ?_) (by rintro ⟨⟨⟩,_⟩)
    simp only [events] at h
    repeat' split at h
    all_goals simp at h

theorem canceledIn_iff {q : Queue} : q.CanceledIn run job ↔ .canceled job ∈ q.history run := by
  induction run generalizing q with
  | nil =>
    refine iff_of_false ?_ List.not_mem_nil
    rintro ⟨past,future,h,_⟩
    exact List.append_ne_nil_of_right_ne_nil past (List.cons_ne_nil _ _) h.symm
  | cons a run ih =>
    rw [history,List.mem_append,canceled_event,← ih]
    constructor
    · rintro ⟨_ | ⟨b,past⟩,future,h,hc⟩
      · cases h
        exact Or.inl ⟨rfl,hc⟩
      · cases h
        exact Or.inr ⟨past,future,rfl,hc⟩
    · rintro (⟨rfl,hc⟩ | ⟨past,future,rfl,hc⟩)
      · exact ⟨[],run,rfl,hc⟩
      · exact ⟨a :: past,future,rfl,hc⟩

/-- A token that is known stands for a job of which there is a record. -/
theorem names_record {disk : Disk} {root : Option Path} {run : List Action} {t : DispatchToken}
    (h : ((start disk root).after run).tokens.Names t job) :
    ∃ r, ((start disk root).after run).store.find? job = some r := by
  rcases h with h | h
  · obtain ⟨r,hr,_⟩ := (matched disk root run).live h
    exact ⟨r,hr⟩
  · obtain ⟨_,_,_,hm⟩ := (matched disk root run).retired h
    obtain ⟨_,r,hr,_⟩ := (told disk root run).ended hm
    exact ⟨r,hr⟩

/-- What is answered about a token for as long as it is known, and about its job at any time, is
whether the job was canceled in the run so far; and it stays canceled. -/
theorem cancellation_observed (disk : Disk) (root : Option Path) (run : List Action) :
    (∀ (t : DispatchToken) job, handed? ((start disk root).history run) t = some job →
      t ∈ ((start disk root).after run).tokens.live ∨
        t ∈ ((start disk root).after run).tokens.retired →
      ((start disk root).after run).TellsCanceled t ((start disk root).CanceledIn run job) ∧
      ((start disk root).after run).ReportsCanceled job ((start disk root).CanceledIn run job)) ∧
    (∀ job i, (((start disk root).after run).info job).1 = .ok i →
      (i.canceled = true ↔ (start disk root).CanceledIn run job)) ∧
    ((run.flatMap Action.draws).Nodup → ∀ c, .claimed c ∈ (start disk root).history run →
      handed? ((start disk root).history run) c.token = some c.id) ∧
    ∀ job, (start disk root).CanceledIn run job → ∀ future,
      ∃ r, ((start disk root).after (run ++ future)).store.find? job = some r ∧
        r.canceled = true := by
  have hq := after_regular (start_regular disk root) run
  have hf := followed disk root run
  refine ⟨?_,?_,fun hd c => handed_once disk root run hd,?_⟩
  · intro t job ht hm
    obtain ⟨i,hi⟩ := Registry.names_of_mem hm
    have hij := hf.names hi
    rw [ht] at hij
    cases hij
    obtain ⟨r,hr⟩ := names_record hi
    have hp : (r.canceled = true) = (start disk root).CanceledIn run job :=
      propext ((hf.flag hr).trans canceledIn_iff.symm)
    exact hp ▸ ⟨isCanceled_answer hq hi hr,info_reports hq.outages hr⟩
  · intro job i hi
    obtain ⟨r,hr,hc⟩ := info_record hq.outages hi
    rw [hc,hf.flag hr,canceledIn_iff]
  · intro job hc future
    exact (followed disk root (run ++ future)).flagged
      (mem_history_append (canceledIn_iff.mp hc) future)

namespace Sample

theorem claimed_told : .claimed ⟨ticket 1,parent,⟨"build","x86"⟩,.null,none⟩ ∈
    (start .empty none).history claimed := by
  have hq : (start .empty none).after (claimed.take 1) =
    holding [(parent,job parent [])] [parent] .fresh := rfl
  have hc : claimed = claimed.take 1 ++ [.request (reading 0) [ticket 1] anyWork] := rfl
  rw [hc,history_append,hq,history,events,claimed_step]
  exact List.mem_append_right _ (List.mem_append_left _ List.mem_cons_self)

end Sample

open Sample in
/-- The job is canceled while the token of its only claim is live, and so its worker is told. -/
theorem cancellation_observed_claimed :
    ticket 1 ∈ ((start .empty none).after (claimed ++ [.cancel parent])).tokens.live ∧
    (start .empty none).CanceledIn (claimed ++ [.cancel parent]) parent ∧
    (((start .empty none).after (claimed ++ [.cancel parent])).isCanceled (ticket 1)).1 =
      .ok true ∧
    ∃ i, (((start .empty none).after (claimed ++ [.cancel parent])).info parent).1 = .ok i ∧
      i.canceled = true := by
  have hlive : ticket 1 ∈ ((start .empty none).after (claimed ++ [.cancel parent])).tokens.live := by
    rw [after_append,claimed_after]
    exact Std.HashMap.mem_insert_self
  have hcancel : (((start .empty none).after claimed).cancel parent).1 = .ok () := by
    rw [claimed_after]
    rfl
  have hcanceled : (start .empty none).CanceledIn (claimed ++ [.cancel parent]) parent :=
    ⟨claimed,[],rfl,hcancel⟩
  have hcalm : ((start .empty none).after (claimed ++ [.cancel parent])).store.faults = [] := by
    rw [after_append,claimed_after]
    rfl
  have hclaim : .claimed ⟨ticket 1,parent,⟨"build","x86"⟩,.null,none⟩ ∈
      (start .empty none).history (claimed ++ [.cancel parent]) :=
    mem_history_append claimed_told [.cancel parent]
  obtain ⟨htells,_,honce,_⟩ := cancellation_observed .empty none (claimed ++ [.cancel parent])
  obtain ⟨htold,hreported⟩ := htells _ _ (honce (by decide) _ hclaim) (Or.inl hlive)
  obtain ⟨b,hb,hflag⟩ := htold.resolve_right fun h => h.1 hcalm
  obtain ⟨i,hi,hshown⟩ := hreported.resolve_right fun h => h.1 hcalm
  exact ⟨hlive,hcanceled,hflag.mpr hcanceled ▸ hb,i,hi,hshown.mpr hcanceled⟩

end Queue

end BuildFarm
