import BuildFarm.Proofs.Number.Shortest

namespace BuildFarm.Binary64

open Ratio

theorem nearest_le {a : Ratio} (ha : 0 < a.den) {n : Nat} (h : a.toRat < n) : a.nearest ≤ n := by
  have hnear := (abs_le.mp (nearest_near ha)).2
  have hlt : (a.nearest : ℚ) < n + 1 := by linarith
  exact Nat.lt_succ_iff.mp (by exact_mod_cast hlt)

theorem zero_finite (negative : Bool) : (zero negative).isFinite = true := by
  cases negative <;> decide

/-- Where rounding takes the mantissa beyond its bits it is halved. -/
theorem round?_finite {a : Ratio} {negative : Bool} (hd : 0 < a.den)
    (h : round? negative a = some x) : x.isFinite = true := by
  by_cases hz : a.num = 0
  · rw [round?,if_pos hz] at h
    cases h
    exact zero_finite _
  rw [round?,if_neg hz] at h
  dsimp only at h
  obtain ⟨hleast,hhigh,_⟩ := exponentFor_bounds (Nat.pos_of_ne_zero hz) hd
  generalize exponentFor a = e at h hleast hhigh
  have hm : (a.mul (scaled 1 2 (-e))).nearest ≤ 0x20000000000000 := by
    refine nearest_le (Nat.mul_pos hd (scaled_den two_pos 1 (-e))) ?_
    rw [toRat_mul,toRat_scaled two_pos,Nat.cast_one,one_mul,Nat.cast_ofNat,zpow_neg]
    rw [zpow_add₀ two_ne_zero] at hhigh
    have hpos : (0 : ℚ) < 2 ^ e := by positivity
    rw [← div_eq_mul_inv,div_lt_iff₀ hpos]
    refine hhigh.trans_eq ?_
    rw [mul_comm]
    norm_num
  generalize (a.mul (scaled 1 2 (-e))).nearest = m at h hm
  have finite {m : Nat} {e : Int} (hm : m < 0x20000000000000) (he : leastExponent ≤ e)
      (h : (if m = 0 then some (zero negative)
        else if e > greatestExponent then none else some ⟨negative,m,e⟩) = some x) :
      x.isFinite = true := by
    split at h
    · cases h
      exact zero_finite _
    · split at h
      · cases h
      · cases h
        simp only [isFinite,Bool.and_eq_true,decide_eq_true_eq]
        exact ⟨⟨hm,he⟩,Int.not_lt.mp ‹_›⟩
  by_cases htop : m = 0x20000000000000
  · simp only [if_pos htop] at h
    exact finite (by decide) (by omega) h
  · simp only [if_neg htop] at h
    exact finite (by omega) hleast h

/-- No power of ten is zero. -/
theorem powerOfTen?_pos (h : powerOfTen? k = some p) : 0 < p.magnitude.num := by
  have hk : k ≤ 308 := by
    by_contra hk
    rw [powerOfTen?,if_neg hk] at h
    cases h
  obtain ⟨p',hp',hnear⟩ := powerOfTen?_near hk
  obtain rfl : p' = p := Option.some.inj (hp'.symm.trans h)
  have hone : (1 : ℚ) ≤ 10 ^ k := one_le_pow₀ (by norm_num)
  have hpos : 0 < p'.magnitude.toRat :=
    lt_of_lt_of_le (by norm_num : (0 : ℚ) < 1 / 2) (by linarith [(hnear.of_one_le hone).1])
  by_contra hzero
  rw [toRat,Nat.eq_zero_of_not_pos hzero,Nat.cast_zero,zero_div] at hpos
  exact lt_irrefl _ hpos

theorem mul?_finite {x y : Binary64} (h : mul? x y = some z) : z.isFinite = true :=
  round?_finite (Nat.mul_pos x.magnitude_den y.magnitude_den) h

theorem div?_finite {x p : Binary64} (hp : powerOfTen? k = some p) (h : div? x p = some z) :
    z.isFinite = true :=
  round?_finite (Nat.mul_pos x.magnitude_den (powerOfTen?_pos hp)) h

/-- One step of scaling multiplies or divides, or comes to zero or to what there was. -/
theorem scaleTenFrom_finite {x : Binary64} (hx : x.isFinite = true)
    (h : scaleTenFrom steps x k = some y) : y.isFinite = true := by
  induction steps generalizing x k with
  | zero =>
    rw [scaleTenFrom] at h
    split at h
    · rename_i p hp
      split at h
      · exact mul?_finite h
      · exact div?_finite hp h
    · split at h
      · cases h
        exact hx
      · split at h <;> cases h
        exact zero_finite _
  | succ n ih =>
    rw [scaleTenFrom] at h
    split at h
    · rename_i p hp
      split at h
      · exact mul?_finite h
      · exact div?_finite hp h
    · split at h
      · cases h
        exact hx
      · split at h
        · cases h
        · obtain ⟨p,hp,h⟩ := Option.bind_eq_some_iff.mp h
          obtain ⟨z,hz,h⟩ := Option.bind_eq_some_iff.mp h
          exact ih (div?_finite hp hz) h

theorem ofDecimal?_finite {n : Nat} {k : Int} (h : ofDecimal? n k = some x) :
    x.isFinite = true := by
  obtain ⟨y,hy,h⟩ := Option.bind_eq_some_iff.mp h
  exact scaleTenFrom_finite (round?_finite Nat.one_pos hy) h

end BuildFarm.Binary64
