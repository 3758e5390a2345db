import BuildFarm.Proofs.Registry
import Mathlib.Data.List.Perm.Basic

namespace BuildFarm

namespace Registry

/-- What is asked of a registry, with the readings of the clock and the tokens that are drawn. -/
inductive Call
  | issue (now : Nat) (draws : List DispatchToken) (job : JobId)
  | resolve (t : DispatchToken)
  | resolveLive (t : DispatchToken)
  | retire (since now : Nat) (t : DispatchToken)

def Call.readings : Call → List Nat
  | .issue now _ _ => [now]
  | .retire since now _ => [since,now]
  | _ => []

/-- Whether a token that was retired at one reading is young at another. -/
def isYoung (ttl now : Nat) (e : Nat × DispatchToken) : Bool :=
  now - e.1 < ttl

/-- What came of a call. -/
inductive Entry
  | issued (now : Nat) (t : DispatchToken) (job : JobId)
  | retired (since now : Nat) (t : DispatchToken)
  /-- The token that was to be retired was not live. -/
  | missed (now : Nat)

def Entry.reading : Entry → Nat
  | .issued now _ _ => now
  | .retired _ now _ => now
  | .missed now => now

/-- What has happened, the latest first. -/
abbrev Log := List Entry

namespace Log

/-- The job of a token that was not retired since it was last issued. -/
def holder? (t : DispatchToken) : Log → Option JobId
  | [] => none
  | .issued _ u job :: past => if u = t then some job else holder? t past
  | .retired _ _ u :: past => if u = t then none else holder? t past
  | .missed _ :: past => holder? t past

/-- The job for which a token was last issued. -/
def latest? (t : DispatchToken) : Log → Option JobId
  | [] => none
  | .issued _ u job :: past => if u = t then some job else latest? t past
  | _ :: past => latest? t past

def retirements : Log → List (Nat × DispatchToken)
  | [] => []
  | .retired since _ t :: past => (since,t) :: retirements past
  | _ :: past => retirements past

/-- The reading of the clock at the last call that looked at it. -/
def reading (log : Log) : Nat :=
  (log.head?.map Entry.reading).getD 0

/-- Of the last retirements, as many as there is room for, those that are young enough. -/
def retainedAt (log : Log) (ttl capacity now : Nat) : List (Nat × DispatchToken) :=
  (log.retirements.take capacity).filter (isYoung ttl now)

def retained (log : Log) (ttl capacity : Nat) : List (Nat × DispatchToken) :=
  log.retainedAt ttl capacity log.reading

/-- Whether a token is live or retained at a reading. -/
def isTaken (log : Log) (ttl capacity now : Nat) (t : DispatchToken) : Bool :=
  (log.holder? t).isSome || t ∈ (log.retainedAt ttl capacity now).map Prod.snd

def resolve (log : Log) (ttl capacity : Nat) (t : DispatchToken) : Except TokenError JobId :=
  match (if log.isTaken ttl capacity log.reading t then log.latest? t else none) with
  | some job => .ok job
  | none => .error .unknown

def resolveLive (log : Log) (ttl capacity : Nat) (t : DispatchToken) : Except TokenError JobId :=
  match log.holder? t with
  | some job => .ok job
  | none =>
    .error (if t ∈ (log.retained ttl capacity).map Prod.snd then .retired else .unknown)

theorem latest?_of_holder? {log : Log} (h : log.holder? t = some job) :
    log.latest? t = some job := by
  induction log with
  | nil => cases h
  | cons e past ih =>
    cases e with
    | issued now u i =>
      simp only [holder?,latest?] at h ⊢
      split at h
      · rename_i hu
        rw [if_pos hu]
        exact h
      · rename_i hu
        rw [if_neg hu]
        exact ih h
    | retired since now u =>
      simp only [holder?] at h
      split at h
      · cases h
      · exact ih h
    | missed now => exact ih h

end Log

/-- Where no token is drawn that can be issued, nothing comes of the call. -/
def step (r : Registry) : Call → Registry
  | .issue now draws job => ((r.issue? now draws job).map Prod.snd).getD r
  | .resolve _ => r
  | .resolveLive _ => r
  | .retire since now t => (r.retireAt since now t).2

def entries (r : Registry) : Call → Log
  | .issue now draws job => ((r.issue? now draws job).map (fun p => .issued now p.1 job)).toList
  | .resolve _ => []
  | .resolveLive _ => []
  | .retire since now t =>
    [if (r.retireAt since now t).1 then .retired since now t else .missed now]

def after (r : Registry) : List Call → Registry
  | [] => r
  | c :: run => (r.step c).after run

def log (r : Registry) : List Call → Log
  | [] => []
  | c :: run => (r.step c).log run ++ r.entries c

section Kept

variable {es : List (Nat × DispatchToken)} {p : Nat × DispatchToken → Bool}

/-- If all that stand before one that passes do so too, it does not matter whether a list is first
cut short or first sifted. -/
theorem filter_take (h : es.Pairwise (fun e f => p f = true → p e = true)) (n : Nat) :
    (es.take n).filter p = (es.filter p).take n := by
  induction es generalizing n with
  | nil => simp
  | cons e es ih =>
    obtain ⟨he,hes⟩ := List.pairwise_cons.mp h
    cases n with
    | zero => rfl
    | succ n =>
      rw [List.take_succ_cons,List.filter_cons,List.filter_cons]
      split
      · rw [List.take_succ_cons,ih hes]
      · rename_i hp
        have hnil : es.filter p = [] := List.filter_eq_nil_iff.mpr (fun f hf hpf => hp (he f hf hpf))
        rw [ih hes,hnil,List.take_nil,List.take_nil]

theorem isYoung_earlier {ttl now before : Nat} {e : Nat × DispatchToken} (h : before ≤ now)
    (hy : isYoung ttl now e = true) : isYoung ttl before e = true := by
  simp only [isYoung,decide_eq_true_eq] at hy ⊢
  omega

/-- With the oldest last, what is younger than a young one is young too. -/
theorem young_front {ttl : Nat} (now : Nat) (h : es.Pairwise (fun e f => f.1 ≤ e.1)) :
    es.Pairwise (fun e f => isYoung ttl now f = true → isYoung ttl now e = true) := by
  refine h.imp ?_
  intro e f hle hy
  simp only [isYoung,decide_eq_true_eq] at hy ⊢
  omega

/-- The retired tokens that remain are the last ones that there is room for, if they are young. -/
theorem kept_reverse {ttl capacity now : Nat} (h : es.Pairwise (fun e f => e.1 ≤ f.1)) :
    (kept ttl capacity now es).reverse =
      (es.reverse.filter (isYoung ttl now)).take capacity := by
  induction es with
  | nil => simp [kept]
  | cons e es ih =>
    obtain ⟨since,t⟩ := e
    obtain ⟨he,hes⟩ := List.pairwise_cons.mp h
    have hlater : now - since < ttl → (es.reverse.filter (isYoung ttl now)) = es.reverse := by
      intro hy
      refine List.filter_eq_self.mpr fun f hf => ?_
      have hle : since ≤ f.1 := he f (List.mem_reverse.mp hf)
      simp only [isYoung,decide_eq_true_eq]
      omega
    unfold kept
    rw [List.reverse_cons,List.filter_append]
    split
    · rename_i hstale
      rw [ih hes]
      by_cases hy : now - since < ttl
      · -- a young one goes where there is no room for it
        have hroom : capacity ≤ es.reverse.length := by
          rw [List.length_reverse]
          omega
        rw [hlater hy,List.take_append_of_le_length hroom]
      · have hnone : [(since,t)].filter (isYoung ttl now) = [] := by simpa [isYoung] using hy
        rw [hnone,List.append_nil]
    · rename_i hfresh
      have hy : now - since < ttl := by omega
      have hone : [(since,t)].filter (isYoung ttl now) = [(since,t)] := by simpa [isYoung] using hy
      have hroom : (es.reverse ++ [(since,t)]).length ≤ capacity := by
        rw [List.length_append,List.length_reverse,List.length_singleton]
        omega
      rw [List.reverse_cons,hlater hy,hone,List.take_of_length_le hroom]

end Kept

/-- The registry is what the log says, and the readings in the log never go back. -/
structure Logged (log : Log) (r : Registry) : Prop where
  sound : Sound r
  live (t : DispatchToken) : r.live[t]? = log.holder? t
  order : r.order.toList.reverse = log.retained r.ttl r.capacity
  bound {t : DispatchToken} {job} : r.retired[t]? = some job → log.latest? t = some job
  falling : log.retirements.Pairwise (fun e f => f.1 ≤ e.1)
  past : ∀ e ∈ log.retirements, e.1 ≤ log.reading

theorem logged_empty (ttl capacity : Nat) : Logged [] (empty ttl capacity) where
  sound := sound_empty ttl capacity
  live t := by simp [empty,Log.holder?]
  order := by simp [empty,Log.retained,Log.retainedAt,Log.retirements]
  bound h := by simp [empty] at h
  falling := .nil
  past := nofun

namespace Logged

variable {log : Log} {r : Registry}

theorem ascending (h : Logged log r) : r.order.toList.Pairwise (fun e f => e.1 ≤ f.1) := by
  rw [← List.pairwise_reverse,h.order]
  exact h.falling.sublist (List.filter_sublist.trans (List.take_sublist _ _))

/-- Of the retired tokens that are listed those that are young at a later reading are those that the
log tells of. -/
theorem young (h : Logged log r) (hn : log.reading ≤ now) :
    r.order.toList.reverse.filter (isYoung r.ttl now) =
      (log.retirements.filter (isYoung r.ttl now)).take r.capacity := by
  rw [h.order,Log.retained,Log.retainedAt,List.filter_filter,← filter_take (young_front now h.falling)]
  refine List.filter_congr fun e _ => ?_
  rw [Bool.and_eq_left_iff_imp]
  exact isYoung_earlier hn

theorem pruned (h : Logged log r) (hn : log.reading ≤ now) :
    (kept r.ttl r.capacity now r.order.toList).reverse =
      log.retainedAt r.ttl r.capacity now := by
  rw [kept_reverse h.ascending,h.young hn,List.take_take,Nat.min_self,Log.retainedAt,
    filter_take (young_front now h.falling)]

theorem retired_pruned (h : Logged log r) (hs : log.reading ≤ since) (hn : since ≤ now)
    (t : DispatchToken) :
    (kept r.ttl r.capacity now (r.order.toList ++ [(since,t)])).reverse =
      Log.retainedAt (.retired since now t :: log) r.ttl r.capacity now := by
  have hascending : (r.order.toList ++ [(since,t)]).Pairwise (fun e f => e.1 ≤ f.1) := by
    refine List.pairwise_append.mpr ⟨h.ascending,List.pairwise_singleton _ _,?_⟩
    intro e he f hf
    rw [List.mem_singleton.mp hf]
    have hm : e ∈ log.retained r.ttl r.capacity := by
      rw [← h.order]
      exact List.mem_reverse.mpr he
    exact Nat.le_trans (h.past e (List.mem_of_mem_take (List.mem_of_mem_filter hm))) hs
  have hfalling : ((since,t) :: log.retirements).Pairwise (fun e f => f.1 ≤ e.1) :=
    List.pairwise_cons.mpr ⟨fun e he => Nat.le_trans (h.past e he) hs,h.falling⟩
  have hcut (es : List (Nat × DispatchToken)) : ((since,t) :: es.take r.capacity).take r.capacity =
      ((since,t) :: es).take r.capacity := by
    cases r.capacity with
    | zero => rfl
    | succ n => rw [List.take_succ_cons,List.take_succ_cons,List.take_take,Nat.min_eq_left n.le_succ]
  rw [kept_reverse hascending,Log.retainedAt,Log.retirements,filter_take (young_front now hfalling),
    List.reverse_append,List.reverse_singleton,List.singleton_append,List.filter_cons,
    List.filter_cons,h.young (Nat.le_trans hs hn)]
  split
  · exact hcut _
  · rw [List.take_take,Nat.min_self]

theorem issued (h : Logged log r) (hi : r.issue? now draws job = some (t,s))
    (hn : log.reading ≤ now) : Logged (.issued now t job :: log) s := by
  obtain ⟨_,_,_,hf,hl,hs,hk⟩ := issue?_cases h.sound hi
  refine ⟨hs,?_,?_,?_,h.falling,fun e he => Nat.le_trans (h.past e he) hn⟩
  · intro u
    rw [hl,Std.HashMap.getElem?_insert,Log.holder?,h.live]
    simp
  · have hp := h.pruned hn
    rw [← hk] at hp
    rw [hp,hf.ttl,hf.capacity]
    rfl
  · intro u i hu
    have hne : t ≠ u := by
      rintro rfl
      refine hs.apart t ?_ (Std.HashMap.mem_iff_isSome_getElem?.mpr (by rw [hu]; rfl))
      rw [hl]
      exact Std.HashMap.mem_insert_self
    rw [Log.latest?,if_neg hne]
    exact h.bound (hf.retired u i hu)

theorem retired (h : Logged log r) (hl : r.live[t]? = some job) (hs : log.reading ≤ since)
    (hn : since ≤ now) : Logged (.retired since now t :: log) (r.retireAt since now t).2 := by
  obtain ⟨hlive,hsound,httl,hcap,hk,hret⟩ := retireAt_cases h.sound since now hl
  refine ⟨hsound,?_,?_,?_,?_,?_⟩
  · intro u
    rw [hlive,Std.HashMap.getElem?_erase,Log.holder?,h.live]
    simp
  · rw [hk,httl,hcap,h.retired_pruned hs hn t]
    rfl
  · intro u i hu
    change log.latest? u = some i
    rcases hret u i hu with ⟨rfl,rfl⟩ | ⟨_,hu⟩
    · exact Log.latest?_of_holder? ((h.live u).symm.trans hl)
    · exact h.bound hu
  · exact List.pairwise_cons.mpr ⟨fun e he => Nat.le_trans (h.past e he) hs,h.falling⟩
  · intro e he
    rcases List.mem_cons.mp he with rfl | he
    · exact hn
    · exact Nat.le_trans (h.past e he) (Nat.le_trans hs hn)

theorem missed (h : Logged log r) (hn : log.reading ≤ now) :
    Logged (.missed now :: log) (r.prune now) := by
  obtain ⟨hf,hs,hk⟩ := prune_cases h.sound now
  refine ⟨hs,?_,?_,fun hu => h.bound (hf.retired _ _ hu),h.falling,
    fun e he => Nat.le_trans (h.past e he) hn⟩
  · intro t
    rw [hf.live,h.live]
    rfl
  · rw [hk,hf.ttl,hf.capacity,h.pruned hn]
    rfl

theorem step (h : Logged log r) (c : Call) (hn : ∀ n ∈ c.readings, log.reading ≤ n)
    (hc : c.readings.Pairwise (· ≤ ·)) : Logged (r.entries c ++ log) (r.step c) := by
  cases c with
  | issue now draws job =>
    simp only [entries,Registry.step]
    cases hi : r.issue? now draws job with
    | none => exact h
    | some p => exact h.issued hi (hn now List.mem_cons_self)
  | resolve t => exact h
  | resolveLive t => exact h
  | retire since now t =>
    have hs : log.reading ≤ since := hn since List.mem_cons_self
    have hle : since ≤ now := (List.pairwise_cons.mp hc).1 now List.mem_cons_self
    simp only [entries,Registry.step]
    cases hl : r.live[t]? with
    | none =>
      simp only [retireAt,hl]
      exact h.missed (Nat.le_trans hs hle)
    | some job =>
      have hlive : (r.retireAt since now t).1 = true := by simp only [retireAt,hl]
      rw [hlive]
      exact h.retired hl hs hle

end Logged

theorem entries_reading {r : Registry} {c : Call} (he : e ∈ r.entries c) :
    e.reading ∈ c.readings := by
  cases c with
  | issue now draws job =>
    simp only [entries,Option.mem_toList,Option.map_eq_some_iff] at he
    obtain ⟨p,_,rfl⟩ := he
    exact List.mem_cons_self
  | resolve t => cases he
  | resolveLive t => cases he
  | retire since now t =>
    rw [entries,List.mem_singleton] at he
    subst he
    split <;> simp [Entry.reading,Call.readings]

theorem step_limits {r : Registry} (h : Sound r) (c : Call) :
    (r.step c).ttl = r.ttl ∧ (r.step c).capacity = r.capacity := by
  cases c with
  | issue now draws job =>
    simp only [step]
    cases hi : r.issue? now draws job with
    | none => exact ⟨rfl,rfl⟩
    | some p =>
      have hf := (issue?_cases h hi).2.2.2.1
      exact ⟨hf.ttl,hf.capacity⟩
  | resolve t => exact ⟨rfl,rfl⟩
  | resolveLive t => exact ⟨rfl,rfl⟩
  | retire since now t =>
    simp only [step]
    cases hl : r.live[t]? with
    | none =>
      simp only [retireAt,hl]
      have hf := (prune_cases h now).1
      exact ⟨hf.ttl,hf.capacity⟩
    | some job =>
      obtain ⟨_,_,ht,hc,_⟩ := retireAt_cases h since now hl
      exact ⟨ht,hc⟩

theorem after_logged {log : Log} {r : Registry} (h : Logged log r) (run : List Call)
    (hn : ∀ n ∈ run.flatMap Call.readings, log.reading ≤ n)
    (hr : (run.flatMap Call.readings).Pairwise (· ≤ ·)) :
    Logged (r.log run ++ log) (r.after run) ∧
      (r.after run).ttl = r.ttl ∧ (r.after run).capacity = r.capacity := by
  induction run generalizing log r with
  | nil => exact ⟨h,rfl,rfl⟩
  | cons c run ih =>
    rw [List.flatMap_cons] at hn hr
    obtain ⟨hc,hrun,hle⟩ := List.pairwise_append.mp hr
    have hstep := h.step c (fun n hm => hn n (List.mem_append_left _ hm)) hc
    obtain ⟨ht,hcap⟩ := step_limits h.sound c
    rw [Registry.log,after,List.append_assoc,← ht,← hcap]
    refine ih hstep ?_ hrun
    intro n hm
    cases he : r.entries c with
    | nil => exact hn n (List.mem_append_right _ hm)
    | cons e es => exact hle _ (entries_reading (he ▸ List.mem_cons_self)) n hm

/-- What the registry keeps and answers is what the log says. -/
structure Refines (r : Registry) (ttl capacity : Nat) (log : Log) : Prop where
  live (t : DispatchToken) : r.live[t]? = log.holder? t
  retired (t : DispatchToken) : t ∈ r.retired ↔ t ∈ (log.retained ttl capacity).map Prod.snd
  order : r.order.toList.reverse = log.retained ttl capacity
  nodup : (r.order.toList.map Prod.snd).Nodup
  room : r.retired.size = r.order.count ∧ r.retired.size ≤ capacity
  resolve (t : DispatchToken) : r.resolve t = log.resolve ttl capacity t
  resolveLive (t : DispatchToken) : r.resolveLive t = log.resolveLive ttl capacity t
  retire (since now : Nat) (t : DispatchToken) :
    (r.retireAt since now t).1 = (log.holder? t).isSome
  issue (now : Nat) (draws : List DispatchToken) (job : JobId) : log.reading ≤ now →
    (r.issue? now draws job).map Prod.fst = draws.find? (fun t => !log.isTaken ttl capacity now t)
  steady (c : Call) (t : DispatchToken) (job : JobId) : r.live[t]? = some job →
    (∀ since now, c ≠ .retire since now t) → (r.step c).live[t]? = some job

namespace Logged

variable {log : Log} {r : Registry}

theorem known (h : Logged log r) (t : DispatchToken) :
    t ∈ r.retired ↔ t ∈ (log.retained r.ttl r.capacity).map Prod.snd := by
  rw [h.sound.retired,← h.order,List.map_reverse,List.mem_reverse]

theorem isTaken_pruned (h : Logged log r) (hn : log.reading ≤ now) (t : DispatchToken) :
    (r.prune now).isTaken t = log.isTaken r.ttl r.capacity now t := by
  obtain ⟨hf,hs,hk⟩ := prune_cases h.sound now
  have hret : t ∈ (r.prune now).retired ↔
      t ∈ (log.retainedAt r.ttl r.capacity now).map Prod.snd := by
    rw [hs.retired,hk,← h.pruned hn,List.map_reverse,List.mem_reverse]
  rw [Registry.isTaken,Log.isTaken,hf.live,← h.live,Bool.eq_iff_iff]
  simp only [Bool.or_eq_true,← Std.HashMap.mem_iff_contains,Std.HashMap.mem_iff_isSome_getElem?,
    decide_eq_true_eq,← hret]

theorem resolve (h : Logged log r) (t : DispatchToken) :
    r.resolve t = log.resolve r.ttl r.capacity t := by
  have hknown : t ∈ r.retired ↔
      t ∈ (log.retainedAt r.ttl r.capacity log.reading).map Prod.snd := h.known t
  simp only [Registry.resolve,Log.resolve,Log.isTaken,← h.live,← hknown]
  cases hl : r.live[t]? with
  | some job => simp [Log.latest?_of_holder? ((h.live t).symm.trans hl)]
  | none =>
    cases hr : r.retired[t]? with
    | some job => simp [Std.HashMap.mem_iff_isSome_getElem?,hr,h.bound hr]
    | none => simp [Std.HashMap.mem_iff_isSome_getElem?,hr]

theorem resolveLive (h : Logged log r) (t : DispatchToken) :
    r.resolveLive t = log.resolveLive r.ttl r.capacity t := by
  rw [Registry.resolveLive,Log.resolveLive,← h.live]
  cases r.live[t]? with
  | some job => rfl
  | none => simp only [← Std.HashMap.mem_iff_contains,h.known]

theorem size (h : Logged log r) : r.retired.size = r.order.count := by
  have hperm : r.retired.keys.Perm (r.order.toList.map Prod.snd) := by
    refine (List.perm_ext_iff_of_nodup r.retired.nodup_keys h.sound.nodup).mpr ?_
    intro t
    rw [Std.HashMap.mem_keys,h.sound.retired]
  rw [← Std.HashMap.length_keys,hperm.length_eq,List.length_map,Fifo.count_toList]

theorem count_le (h : Logged log r) : r.order.count ≤ r.capacity := by
  rw [Fifo.count_toList,← List.length_reverse,h.order]
  exact Nat.le_trans (List.length_filter_le _ _) (List.length_take_le _ _)

theorem issue (h : Logged log r) (hn : log.reading ≤ now) (draws : List DispatchToken)
    (job : JobId) : (r.issue? now draws job).map Prod.fst =
      draws.find? (fun t => !log.isTaken r.ttl r.capacity now t) := by
  have hfree : (fun t => !(r.prune now).isTaken t) =
      fun t => !log.isTaken r.ttl r.capacity now t := by
    funext t
    rw [h.isTaken_pruned hn]
  rw [issue?,hfree]
  cases draws.find? (fun t => !log.isTaken r.ttl r.capacity now t) <;> rfl

theorem steady (h : Logged log r) (c : Call) (hl : r.live[t]? = some job)
    (hc : ∀ since now, c ≠ .retire since now t) : (r.step c).live[t]? = some job := by
  cases c with
  | issue now draws i =>
    simp only [Registry.step]
    cases hi : r.issue? now draws i with
    | none => exact hl
    | some p => exact (issue?_live h.sound hi t job).mpr (Or.inr hl)
  | resolve u => exact hl
  | resolveLive u => exact hl
  | retire since now u =>
    have hu : u ≠ t := fun he => hc since now (he ▸ rfl)
    simp only [Registry.step]
    cases hlu : r.live[u]? with
    | none =>
      simp only [retireAt,hlu]
      rw [(prune_cases h.sound now).1.live]
      exact hl
    | some i => exact (retireAt_live h.sound since now hlu t job).mpr ⟨hu,hl⟩

theorem refines (h : Logged log r) : Refines r r.ttl r.capacity log where
  live := h.live
  retired := h.known
  order := h.order
  nodup := h.sound.nodup
  room := ⟨h.size,h.size ▸ h.count_le⟩
  resolve := h.resolve
  resolveLive := h.resolveLive
  retire since now t := by
    rw [← h.live,retireAt]
    cases r.live[t]? <;> rfl
  issue now draws job hn := h.issue hn draws job
  steady c t job hl hc := h.steady c hl hc

end Logged

/-- Whatever is asked of a registry, as long as the clock does not go back, it answers as the log of
what has happened, and holds no more than the log says. -/
theorem refines_log (ttl capacity : Nat) (run : List Call)
    (h : (run.flatMap Call.readings).Pairwise (· ≤ ·)) :
    Refines ((empty ttl capacity).after run) ttl capacity ((empty ttl capacity).log run) := by
  obtain ⟨hl,ht,hc⟩ := after_logged (logged_empty ttl capacity) run (fun n _ => Nat.zero_le n) h
  rw [List.append_nil] at hl
  have hr := hl.refines
  rw [ht,hc] at hr
  exact hr

/-- Two tokens, of which the first is forgotten for want of room, and is drawn again. -/
def Sample.crowded (t u : DispatchToken) (job : JobId) : List Call :=
  [.issue 0 [t] job,.issue 1 [t,u] job,.retire 2 2 t,.retire 2 3 u,.issue 4 [u,t] job,.retire 5 5 u]

theorem refines_log_crowded :
    ((Sample.crowded ⟨.ofNat 1⟩ ⟨.ofNat 2⟩ ⟨.ofNat 3⟩).flatMap Call.readings).Pairwise (· ≤ ·) ∧
    Refines ((empty 10 1).after (Sample.crowded ⟨.ofNat 1⟩ ⟨.ofNat 2⟩ ⟨.ofNat 3⟩)) 10 1
      ((empty 10 1).log (Sample.crowded ⟨.ofNat 1⟩ ⟨.ofNat 2⟩ ⟨.ofNat 3⟩)) := by
  have h : ((Sample.crowded ⟨.ofNat 1⟩ ⟨.ofNat 2⟩ ⟨.ofNat 3⟩).flatMap
      Call.readings).Pairwise (· ≤ ·) := by decide
  exact ⟨h,refines_log 10 1 _ h⟩

end Registry

end BuildFarm
