import BuildFarm.Proofs.Registry

namespace BuildFarm.Registry

variable {r : Registry} {t : DispatchToken}

/-- What is not kept lies in front of what is, and each of it is too old or has too many behind it. -/
theorem kept_split (ttl capacity now : Nat) (order : List (Nat × DispatchToken)) :
    ∃ forgotten, order = forgotten ++ kept ttl capacity now order ∧
      ∀ before since v later, forgotten = before ++ (since,v) :: later →
        ttl ≤ now - since ∨ capacity < later.length + (kept ttl capacity now order).length + 1 := by
  induction order with
  | nil => exact ⟨[],rfl,fun before => by cases before <;> nofun⟩
  | cons e order ih =>
    obtain ⟨since,v⟩ := e
    rw [kept]
    split
    · rename_i hstale
      obtain ⟨forgotten,horder,hf⟩ := ih
      refine ⟨(since,v) :: forgotten,congrArg _ horder,?_⟩
      rintro (_ | ⟨_,before⟩) since' v' later h
      · cases h
        rw [← List.length_append,← horder]
        exact hstale
      · exact hf before since' v' later (List.cons.inj h).2
    · exact ⟨[],rfl,fun before => by cases before <;> nofun⟩

/-- The registry once a live token was retired. Tokens are forgotten oldest first, and none that is
young enough and has few enough behind it. -/
structure Retired (r : Registry) (now : Nat) (t : DispatchToken) (job : JobId) (u : Registry) :
    Prop where
  live : u.live = r.live.erase t
  own : u.retired[t]? = some job
  others : ∃ forgotten rest, r.order.toList = forgotten ++ rest ∧
    u.order.toList = rest ++ [(now,t)] ∧
    (∀ v ≠ t, u.retired[v]? = if v ∈ forgotten.map Prod.snd then none else r.retired[v]?) ∧
    ∀ before since v later, forgotten = before ++ (since,v) :: later →
      r.ttl ≤ now - since ∨ r.capacity < later.length + rest.length + 2
  limits : u.ttl = r.ttl ∧ u.capacity = r.capacity

theorem Sound.mem_retired (h : Sound r) :
    (∃ job, r.retired[t]? = some job) ↔ t ∈ r.order.toList.map Prod.snd := by
  rw [← h.retired,Std.HashMap.mem_iff_isSome_getElem?,Option.isSome_iff_exists]

theorem Sound.unlisted (h : Sound r) (ht : t ∉ r.order.toList.map Prod.snd) :
    r.retired[t]? = none :=
  Option.eq_none_iff_forall_ne_some.mpr (fun job hj => ht (h.mem_retired.mp ⟨job,hj⟩))

/-- Of the tokens that were retired before those are known that are still listed. -/
theorem Sound.listed {u : Registry} (h : Sound u)
    (older : ∀ job, u.retired[t]? = some job → r.retired[t]? = some job) :
    u.retired[t]? = if t ∈ u.order.toList.map Prod.snd then r.retired[t]? else none := by
  split
  · rename_i ht
    obtain ⟨job,hj⟩ := h.mem_retired.mpr ht
    rw [hj,older job hj]
  · exact h.unlisted ‹_›

theorem retire_retired (hs : Sound r) (ht : 0 < r.ttl) (hc : 0 < r.capacity) (now : Nat)
    (hl : r.live[t]? = some job) : Retired r now t job (r.retire now t).2 := by
  obtain ⟨hlive,hsound,httl,hcap,horder,hretired⟩ := retire_cases hs now hl
  have hyoung : now - now < r.ttl := by rwa [Nat.sub_self]
  obtain ⟨forgotten,hsplit,hstale⟩ := kept_split r.ttl r.capacity now (r.order.toList ++ [(now,t)])
  obtain ⟨rest,hrest⟩ := kept_recent r.order.toList [] t hyoung hc
  rw [hrest] at horder hsplit hstale
  have hbefore : r.order.toList = forgotten ++ rest := by
    rw [← List.append_assoc] at hsplit
    exact List.append_cancel_right hsplit
  refine ⟨hlive,?own,⟨forgotten,rest,hbefore,horder,?others,?stale⟩,httl,hcap⟩
  case own =>
    obtain ⟨i,hi⟩ := hsound.mem_retired.mpr (by rw [horder]; simp : t ∈ _)
    rcases hretired t i hi with ⟨_,rfl⟩ | ⟨hne,_⟩
    · exact hi
    · exact absurd rfl hne
  case others =>
    intro v hv
    have hnodup := hs.nodup
    rw [hbefore,List.map_append] at hnodup
    have hlisted : v ∈ (r.retire now t).2.order.toList.map Prod.snd ↔ v ∈ rest.map Prod.snd := by
      rw [horder,List.map_append,List.mem_append,List.map_singleton,List.mem_singleton]
      exact or_iff_left hv
    rw [hsound.listed (fun i hi => ((hretired v i hi).resolve_left (fun h => hv h.1)).2)]
    by_cases hrest : v ∈ rest.map Prod.snd
    · rw [if_pos (hlisted.mpr hrest),
        if_neg (fun hm => (List.nodup_append.mp hnodup).2.2 v hm v hrest rfl)]
    · rw [if_neg (mt hlisted.mp hrest)]
      split
      · rfl
      · refine (hs.unlisted ?_).symm
        rw [hbefore,List.map_append,List.mem_append]
        exact not_or_intro ‹_› hrest
  case stale =>
    intro before since v later h
    have h := hstale before since v later h
    rwa [List.length_append,List.length_singleton,← Nat.add_assoc] at h

end BuildFarm.Registry
