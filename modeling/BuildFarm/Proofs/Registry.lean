import BuildFarm.Registry

namespace BuildFarm

namespace Registry

/-- What remains, at a reading, of retired tokens that are listed oldest first. -/
def kept (ttl capacity now : Nat) : List (Nat × DispatchToken) → List (Nat × DispatchToken)
  | [] => []
  | (since,t) :: rest =>
    if ttl ≤ now - since ∨ capacity < rest.length + 1 then kept ttl capacity now rest
    else (since,t) :: rest

/-- A token that is young enough, with few enough behind it, stays where it is. -/
theorem kept_recent {ttl capacity : Nat} (past later : List (Nat × DispatchToken))
    (t : DispatchToken) (hy : now - since < ttl) (hl : later.length < capacity) :
    ∃ rest, kept ttl capacity now (past ++ (since,t) :: later) = rest ++ (since,t) :: later := by
  induction past with
  | nil =>
    refine ⟨[],?_⟩
    have hs : ¬(ttl ≤ now - since ∨ capacity < later.length + 1) := by omega
    simp only [List.nil_append,kept,if_neg hs]
  | cons e past ih =>
    obtain ⟨s,u⟩ := e
    simp only [List.cons_append,kept]
    split
    · exact ih
    · exact ⟨(s,u) :: past,rfl⟩

theorem resolveLive_ok {r : Registry} : r.resolveLive t = .ok job ↔ r.live[t]? = some job := by
  simp only [resolveLive]
  cases r.live[t]? <;> simp

theorem resolveLive_none {r : Registry} (h : r.live[t]? = none) :
    r.resolveLive t = .error (if r.retired.contains t then .retired else .unknown) := by
  simp [resolveLive,h]

theorem resolve_ok {r : Registry} (h : r.resolve t = .ok job) :
    r.live[t]? = some job ∨ r.retired[t]? = some job := by
  unfold resolve at h
  split at h
  · cases h
    exact Or.inl ‹_›
  · split at h
    · cases h
      exact Or.inr ‹_›
    · cases h

/-- The retired tokens are those that are listed, each once, and none of them is live. -/
structure Sound (r : Registry) : Prop where
  nodup : (r.order.toList.map Prod.snd).Nodup
  retired : ∀ t, t ∈ r.retired ↔ t ∈ r.order.toList.map Prod.snd
  apart : ∀ t ∈ r.live, t ∉ r.retired

theorem sound_empty (ttl capacity : Nat) : Sound (empty ttl capacity) := by
  refine ⟨?_,?_,?_⟩ <;> simp [empty]

/-- The registry after some of its retired tokens were forgotten. -/
structure Forgets (r s : Registry) : Prop where
  live : s.live = r.live
  ttl : s.ttl = r.ttl
  capacity : s.capacity = r.capacity
  retired : ∀ (t : DispatchToken) (job : JobId), s.retired[t]? = some job → r.retired[t]? = some job

theorem Forgets.refl (r : Registry) : Forgets r r :=
  ⟨rfl,rfl,rfl,fun _ _ h => h⟩

def forgetFirst (r : Registry) (t : DispatchToken) : Registry :=
  { r with retired := r.retired.erase t, order := r.order.tail }

theorem forgetFirst_forgets (r : Registry) (t : DispatchToken) : Forgets r (r.forgetFirst t) := by
  refine ⟨rfl,rfl,rfl,?_⟩
  intro u job h
  simp only [forgetFirst,Std.HashMap.getElem?_erase] at h
  split at h
  · cases h
  · exact h

theorem Sound.forgetFirst {r : Registry} (h : Sound r) (ho : r.order.toList = (since,t) :: rest) :
    Sound (r.forgetFirst t) := by
  have hn := h.nodup
  rw [ho,List.map_cons,List.nodup_cons] at hn
  have ht : (r.forgetFirst t).order.toList = rest := by simp [Registry.forgetFirst,ho]
  refine ⟨by rw [ht]; exact hn.2,?_,?_⟩
  · intro u
    have hu := h.retired u
    rw [ho,List.map_cons,List.mem_cons] at hu
    rw [ht]
    simp only [Registry.forgetFirst,Std.HashMap.mem_erase,beq_eq_false_iff_ne,ne_eq]
    constructor
    · rintro ⟨hne,hm⟩
      exact (hu.mp hm).resolve_left (Ne.symm hne)
    · intro hm
      refine ⟨?_,hu.mpr (Or.inr hm)⟩
      rintro rfl
      exact hn.1 hm
  · intro u hu hm
    exact h.apart u hu (Std.HashMap.mem_of_mem_erase hm)

/-- With room for all steps, forgetting leaves exactly what is kept. -/
theorem pruneFrom_cases {r : Registry} (h : Sound r) (hb : r.order.toList.length ≤ bound) :
    Forgets r (pruneFrom now bound r) ∧ Sound (pruneFrom now bound r) ∧
      (pruneFrom now bound r).order.toList = kept r.ttl r.capacity now r.order.toList := by
  induction bound generalizing r with
  | zero =>
    have he : r.order.toList = [] := List.eq_nil_of_length_eq_zero (Nat.le_zero.mp hb)
    exact ⟨.refl r,h,by simp [pruneFrom,he,kept]⟩
  | succ n ih =>
    simp only [pruneFrom,Fifo.head?_toList]
    cases ho : r.order.toList with
    | nil => exact ⟨.refl r,h,by simp [ho,kept]⟩
    | cons e rest =>
      obtain ⟨since,t⟩ := e
      have hc : r.order.count = rest.length + 1 := by simp [Fifo.count_toList,ho]
      simp only [List.head?_cons,isStale,hc,kept,Bool.or_eq_true,decide_eq_true_eq]
      split
      · have hf := forgetFirst_forgets r t
        have ht : (r.forgetFirst t).order.toList = rest := by simp [forgetFirst,ho]
        obtain ⟨hi,hs,hk⟩ := ih (h.forgetFirst ho) (by rw [ht]; simpa [ho] using hb)
        refine ⟨⟨hi.live.trans hf.live,hi.ttl.trans hf.ttl,hi.capacity.trans hf.capacity,?_⟩,hs,?_⟩
        · intro u job hu
          exact hf.retired u job (hi.retired u job hu)
        · rw [ht] at hk
          exact hk
      · exact ⟨.refl r,h,ho⟩

theorem prune_cases {r : Registry} (h : Sound r) (now : Nat) :
    Forgets r (r.prune now) ∧ Sound (r.prune now) ∧
      (r.prune now).order.toList = kept r.ttl r.capacity now r.order.toList :=
  pruneFrom_cases h (Nat.le_of_eq r.order.count_toList.symm)

/-- A token is issued where all the drawn ones before it, but not it, are taken. -/
theorem issue?_cases {r s : Registry} (h : Sound r) (hi : r.issue? now draws job = some (t,s)) :
    t ∈ draws ∧ t ∉ r.live ∧ t ∉ (r.prune now).retired ∧
      Forgets r { s with live := r.live } ∧ s.live = r.live.insert t job ∧ Sound s ∧
      s.order.toList = kept r.ttl r.capacity now r.order.toList := by
  obtain ⟨hf,hs,hk⟩ := prune_cases h now
  simp only [issue?] at hi
  split at hi
  · cases hi
  · rename_i u hu
    cases hi
    have ht := List.find?_some hu
    simp only [isTaken,Bool.not_eq_true',Bool.or_eq_false_iff] at ht
    have hl : t ∉ r.live := by
      rw [← hf.live]
      simpa using ht.1
    have hr : t ∉ (r.prune now).retired := by simpa using ht.2
    refine ⟨List.mem_of_find?_eq_some hu,hl,hr,⟨rfl,hf.ttl,hf.capacity,hf.retired⟩,?_,?_,hk⟩
    · exact congrArg (fun m => m.insert t job) hf.live
    · refine ⟨hs.nodup,hs.retired,?_⟩
      intro v hv hm
      rcases Std.HashMap.mem_insert.mp hv with he | hv
      · have he : t = v := by simpa using he
        exact hr (he ▸ hm)
      · exact hs.apart v hv hm

/-- The first token of all is issued as it is drawn. -/
theorem issue?_fresh (now : Nat) (t : DispatchToken) (job : JobId) :
    fresh.issue? now [t] job = some (t,{ fresh with live := fresh.live.insert t job }) := by
  simp [issue?,prune,pruneFrom,fresh,empty,Fifo.empty,isTaken]

/-- Where no token is issued, all that were drawn are bound. -/
theorem issue?_none {r : Registry} (hs : Sound r) (hi : r.issue? now draws job = none) :
    ∀ t ∈ draws, (∃ j, r.live[t]? = some j) ∨ ∃ j, r.retired[t]? = some j := by
  intro t ht
  have hf := (prune_cases hs now).1
  simp only [issue?] at hi
  split at hi
  · rename_i hn
    have htaken := List.find?_eq_none.mp hn t ht
    simp only [isTaken,Bool.not_eq_true',Bool.not_eq_false,Bool.or_eq_true,
      ← Std.HashMap.mem_iff_contains,Std.HashMap.mem_iff_isSome_getElem?,
      Option.isSome_iff_exists] at htaken
    rw [hf.live] at htaken
    rcases htaken with hl | ⟨j,hj⟩
    · exact Or.inl hl
    · exact Or.inr ⟨j,hf.retired t j hj⟩
  · cases hi

theorem issue?_free {r : Registry} (hs : Sound r) (ht : t ∈ draws) (hf : r.isTaken t = false)
    (now : Nat) (job : JobId) : r.issue? now draws job ≠ none := by
  intro hi
  simp only [isTaken,Bool.or_eq_false_iff,Std.HashMap.contains_eq_isSome_getElem?] at hf
  rcases issue?_none hs hi t ht with ⟨j,hj⟩ | ⟨j,hj⟩
  · simp [hj] at hf
  · simp [hj] at hf

/-- The token is retired; nothing is forgotten yet. -/
def moved (r : Registry) (since : Nat) (t : DispatchToken) (job : JobId) : Registry :=
  { r with
    live := r.live.erase t
    retired := r.retired.insert t job
    order := r.order.push (since,t) }

theorem moved_sound {r : Registry} (h : Sound r) (since : Nat) (hl : r.live[t]? = some job) :
    Sound (r.moved since t job) := by
  have hm : t ∈ r.live := by
    rw [Std.HashMap.mem_iff_isSome_getElem?,hl]
    rfl
  have hn : t ∉ r.order.toList.map Prod.snd := fun ht => h.apart t hm ((h.retired t).mpr ht)
  refine ⟨?_,?_,?_⟩
  · simpa [moved,List.nodup_append] using ⟨h.nodup,fun a b hab hbt => hn (by
      subst hbt
      exact List.mem_map.mpr ⟨_,hab,rfl⟩)⟩
  · intro u
    have hu := h.retired u
    simp only [moved,Std.HashMap.mem_insert,beq_iff_eq,Fifo.toList_push,List.map_append,
      List.map_cons,List.map_nil,List.mem_append,List.mem_singleton]
    rw [hu]
    constructor
    · rintro (rfl | hu)
      · exact Or.inr rfl
      · exact Or.inl hu
    · rintro (hu | rfl)
      · exact Or.inr hu
      · exact Or.inl rfl
  · intro u hu hr
    simp only [moved,Std.HashMap.mem_erase,beq_eq_false_iff_ne,ne_eq] at hu
    rcases Std.HashMap.mem_insert.mp hr with he | hr
    · exact hu.1 (by simpa using he)
    · exact h.apart u hu.2 hr

/-- A live token that is retired joins the others at the end, before any are forgotten. -/
theorem retireAt_cases {r : Registry} (h : Sound r) (since now : Nat) (hl : r.live[t]? = some job) :
    (r.retireAt since now t).2.live = r.live.erase t ∧ Sound (r.retireAt since now t).2 ∧
      (r.retireAt since now t).2.ttl = r.ttl ∧ (r.retireAt since now t).2.capacity = r.capacity ∧
      (r.retireAt since now t).2.order.toList =
        kept r.ttl r.capacity now (r.order.toList ++ [(since,t)]) ∧
      ∀ (u : DispatchToken) (i : JobId), (r.retireAt since now t).2.retired[u]? = some i →
        (u = t ∧ i = job) ∨ (u ≠ t ∧ r.retired[u]? = some i) := by
  have he : (r.retireAt since now t).2 = (r.moved since t job).prune now := by
    simp [retireAt,hl,moved]
  obtain ⟨hf,hp,hk⟩ := prune_cases (moved_sound h since hl) now
  rw [he]
  refine ⟨hf.live,hp,hf.ttl,hf.capacity,by simpa [moved] using hk,?_⟩
  intro u i hu
  have hu := hf.retired u i hu
  simp only [moved,Std.HashMap.getElem?_insert] at hu
  split at hu
  · rename_i hut
    have hut : t = u := by simpa using hut
    cases hu
    exact Or.inl ⟨hut.symm,rfl⟩
  · rename_i hut
    exact Or.inr ⟨fun h => hut (by simp [h]),hu⟩

theorem retire_cases {r : Registry} (h : Sound r) (now : Nat) (hl : r.live[t]? = some job) :
    (r.retire now t).2.live = r.live.erase t ∧ Sound (r.retire now t).2 ∧
      (r.retire now t).2.ttl = r.ttl ∧ (r.retire now t).2.capacity = r.capacity ∧
      (r.retire now t).2.order.toList =
        kept r.ttl r.capacity now (r.order.toList ++ [(now,t)]) ∧
      ∀ (u : DispatchToken) (i : JobId), (r.retire now t).2.retired[u]? = some i →
        (u = t ∧ i = job) ∨ (u ≠ t ∧ r.retired[u]? = some i) :=
  retireAt_cases h now now hl

theorem issue?_live {r s : Registry} (h : Sound r) (hi : r.issue? now draws job = some (t,s))
    (u : DispatchToken) (i : JobId) :
    s.live[u]? = some i ↔ (u = t ∧ i = job) ∨ r.live[u]? = some i := by
  obtain ⟨_,hnew,_,_,hl,_,_⟩ := issue?_cases h hi
  rw [hl,Std.HashMap.getElem?_insert]
  by_cases hu : t = u
  · subst hu
    have hnone : r.live[t]? = none := Std.HashMap.getElem?_eq_none hnew
    simp [hnone,eq_comm]
  · have hu' : u ≠ t := fun he => hu he.symm
    simp [hu,hu']

theorem retireAt_live {r : Registry} (h : Sound r) (since now : Nat) (hl : r.live[t]? = some job)
    (u : DispatchToken) (i : JobId) :
    (r.retireAt since now t).2.live[u]? = some i ↔ t ≠ u ∧ r.live[u]? = some i := by
  rw [(retireAt_cases h since now hl).1,Std.HashMap.getElem?_erase]
  by_cases hu : t = u <;> simp [hu]

theorem retire_live {r : Registry} (h : Sound r) (now : Nat) (hl : r.live[t]? = some job)
    (u : DispatchToken) (i : JobId) :
    (r.retire now t).2.live[u]? = some i ↔ t ≠ u ∧ r.live[u]? = some i :=
  retireAt_live h now now hl u i

end Registry

end BuildFarm
