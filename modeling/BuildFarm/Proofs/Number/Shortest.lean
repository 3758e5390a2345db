import BuildFarm.Number.Shortest
import BuildFarm.Proofs.Number.Rounding
import BuildFarm.Proofs.Text.Hex

namespace BuildFarm

namespace Binary64

open Ratio

/-- There are no other numbers than these, but for the infinite ones. -/
def isFinite (x : Binary64) : Bool :=
  x.mantissa < 0x20000000000000 && leastExponent ≤ x.exponent && x.exponent ≤ greatestExponent

/-- The decimal as a number. -/
theorem toRat_value (d : Decimal) : d.value.toRat = d.digits * 10 ^ d.exponent :=
  toRat_scaled (by decide) _ _

theorem value_den (d : Decimal) : 0 < d.value.den :=
  scaled_den (by decide) _ _

/-- The first digit of a number is not behind its leading place. -/
theorem lt_leadExponent {a : Ratio} (hn : 0 < a.num) (hd : 0 < a.den) :
    a.toRat < 10 ^ (leadExponent a + 1) := by
  have hn' : (0 : ℚ) < a.num := by exact_mod_cast hn
  have hd' : (0 : ℚ) < a.den := by exact_mod_cast hd
  unfold leadExponent
  split
  · rename_i h
    have hlt := Text.lt_pow_digits (a.num / a.den)
    generalize (Text.digits (a.num / a.den)).length = n at hlt
    rw [sub_add_cancel,zpow_natCast,toRat,div_lt_iff₀ hd']
    rw [Nat.div_lt_iff_lt_mul hd] at hlt
    exact_mod_cast hlt
  · rename_i h
    have hlow := Text.pow_digits_le (Nat.div_pos (Nat.le_of_not_le h) hn)
    obtain ⟨m,hm⟩ := Nat.exists_eq_succ_of_ne_zero
      (List.length_pos_of_ne_nil (Text.digits_ne_nil (a.den / a.num))).ne'
    rw [hm,Nat.succ_sub_one,Nat.le_div_iff_mul_le hn] at hlow
    have hpow : (10 : ℚ) ^ (-(m : Int)) * a.den = a.den / 10 ^ m := by
      rw [zpow_neg,zpow_natCast,inv_mul_eq_div]
    dsimp only
    rw [hm,Nat.succ_sub_one]
    split
    · have hle : a.toRat ≤ 10 ^ (-(m : Int)) := by
        rw [toRat,div_le_iff₀ hd',hpow,le_div_iff₀ (by positivity)]
        exact_mod_cast (Nat.mul_comm _ _).trans_le hlow
      exact hle.trans_lt (zpow_lt_zpow_right₀ (by norm_num) (by omega))
    · rename_i hlt
      have hexp : -((m + 1 : Nat) : Int) + 1 = -(m : Int) := by omega
      rw [hexp,toRat,div_lt_iff₀ hd',hpow,lt_div_iff₀ (by positivity)]
      exact_mod_cast Nat.not_le.mp hlt

theorem nearest_cases (a : Ratio) :
    a.nearest = a.num / a.den ∨ a.nearest = a.num / a.den + 1 := by
  have hodd := Nat.mod_lt (a.num / a.den) two_pos
  unfold nearest
  dsimp only
  split
  · exact Or.inl rfl
  · split <;> omega

/-- A decimal that rounds to the number is larger than none and at most half a step larger than the
number. -/
theorem roundsTo_bounds {x : Binary64} {a : Ratio} (hx : 0 < x.mantissa) (ha : 0 < a.den)
    (h : roundsTo x a = true) :
    0 < a.toRat ∧ a.toRat ≤ (2 * x.mantissa + 1) * 2 ^ (x.exponent - 1) := by
  have hhigh := scaled_den two_pos (2 * x.mantissa + 1) (x.exponent - 1)
  have hup : (scaled (2 * x.mantissa + 1) 2 (x.exponent - 1)).toRat =
      (2 * x.mantissa + 1) * 2 ^ (x.exponent - 1) := by
    rw [toRat_scaled two_pos]
    push_cast
    rfl
  have pos {n : Nat} (e : Int) (hn : 0 < n) : 0 < (scaled n 2 e).toRat := by
    have hn' : (0 : ℚ) < n := by exact_mod_cast hn
    rw [toRat_scaled two_pos]
    positivity
  unfold roundsTo at h
  dsimp only at h
  generalize hl : (if x.mantissa = 0x10000000000000 ∧ leastExponent < x.exponent then
    scaled (4 * x.mantissa - 1) 2 (x.exponent - 2)
    else scaled (2 * x.mantissa - 1) 2 (x.exponent - 1)) = low at h
  have hlow : 0 < low.den ∧ 0 < low.toRat := by
    rw [← hl]
    split
    · exact ⟨scaled_den two_pos _ _,pos _ (by omega)⟩
    · exact ⟨scaled_den two_pos _ _,pos _ (by omega)⟩
  split at h
  · obtain ⟨h1,h2⟩ := Bool.and_eq_true_iff.mp h
    exact ⟨hlow.2.trans_le ((le_iff hlow.1 ha).mp h1),
      ((le_iff ha hhigh).mp h2).trans_eq hup⟩
  · obtain ⟨h1,h2⟩ := Bool.and_eq_true_iff.mp h
    exact ⟨hlow.2.trans ((lt_iff hlow.1 ha).mp h1),
      ((lt_iff ha hhigh).mp h2).le.trans_eq hup⟩

/-- What is tried with so many digits. -/
theorem onGrid?_some {x : Binary64} {a : Ratio} {lead : Int} {d : Decimal} (hd : 0 < a.den)
    (ha : a.toRat < 10 ^ (lead + 1)) (h : onGrid? x a lead n = some d) :
    d.digits ≤ 10 ^ n ∧ roundsTo x d.value = true := by
  unfold onGrid? at h
  dsimp only at h
  generalize hq : a.mul (scaled 1 10 (-(lead - n + 1))) = q at h
  have hden : 0 < q.den := hq ▸ Nat.mul_pos hd (scaled_den (by decide) _ _)
  have hwhole : q.num / q.den < 10 ^ n := by
    have hlt : q.toRat < 10 ^ n := by
      rw [← hq,toRat_mul,toRat_scaled (by decide),Nat.cast_one,one_mul,Nat.cast_ofNat,
        ← lt_div_iff₀ (by positivity)]
      refine ha.trans_eq ?_
      rw [← zpow_natCast,← zpow_sub₀ (by norm_num)]
      congr 1
      ring
    have hden' : (0 : ℚ) < q.den := by exact_mod_cast hden
    rw [toRat,div_lt_iff₀ hden'] at hlt
    rw [Nat.div_lt_iff_lt_mul hden]
    exact_mod_cast hlt
  split at h
  · rename_i hb ht
    cases h
    rcases nearest_cases q with hn | hn
    · rw [hn]
      exact ⟨hwhole.le,hb⟩
    · rw [hn]
      exact ⟨hwhole,ht⟩
  · rename_i hb _
    cases h
    exact ⟨hwhole.le,hb⟩
  · rename_i _ ht
    cases h
    exact ⟨hwhole,ht⟩
  · cases h

theorem dropZeros_kept (steps : Nat) (d : Decimal) :
    (dropZeros steps d).digits ≤ d.digits ∧ (dropZeros steps d).value.toRat = d.value.toRat := by
  induction steps generalizing d with
  | zero => exact ⟨Nat.le_refl _,rfl⟩
  | succ n ih =>
    unfold dropZeros
    split
    · rename_i h
      obtain ⟨hle,hv⟩ := ih ⟨d.digits / 10,d.exponent + 1⟩
      refine ⟨hle.trans (Nat.div_le_self _ _),hv.trans ?_⟩
      have hten : (d.digits : ℚ) = (d.digits / 10 : Nat) * 10 := by
        exact_mod_cast (Nat.div_mul_cancel (Nat.dvd_of_mod_eq_zero h.2)).symm
      rw [toRat_value,toRat_value,hten,zpow_add_one₀ (by norm_num)]
      ring
    · exact ⟨Nat.le_refl _,rfl⟩

/-- The three largest mantissas at the greatest exponent. Their decimals keep less room to the limit
than rounding may take. -/
def Top (x : Binary64) : Prop :=
  0x1ffffffffffffc < x.mantissa ∧ x.exponent = greatestExponent

/-- What is printed of a number, if it is one that can be read. -/
structure Decimal.Readable (d : Decimal) : Prop where
  front : d.digits = 0 → d.exponent = 0
  digits : d.digits ≤ 10 ^ 17
  exponent : d.exponent ≤ 308
  read : (ofDecimal? d.digits d.exponent).isSome = true

theorem zero_readable : Decimal.Readable ⟨0,0⟩ :=
  ⟨fun _ => rfl,by decide,by decide,by decide +kernel⟩

theorem top_readable {x : Binary64} (h : x.isFinite = true) (ht : x.Top) :
    x.shortest.Readable := by
  have hall : ∀ m ∈ [0x1ffffffffffffd,0x1ffffffffffffe,0x1fffffffffffff], ∀ negative,
      (shortest ⟨negative,m,greatestExponent⟩).digits ≠ 0 ∧
      (shortest ⟨negative,m,greatestExponent⟩).digits ≤ 10 ^ 17 ∧
      (shortest ⟨negative,m,greatestExponent⟩).exponent ≤ 308 ∧
      (ofDecimal? (shortest ⟨negative,m,greatestExponent⟩).digits
        (shortest ⟨negative,m,greatestExponent⟩).exponent).isSome = true := by
    decide +kernel
  obtain ⟨negative,m,e⟩ := x
  obtain ⟨hlow,rfl⟩ := ht
  simp only [isFinite,Bool.and_eq_true,decide_eq_true_eq] at h hlow
  have hm : m ∈ [0x1ffffffffffffd,0x1ffffffffffffe,0x1fffffffffffff] := by
    simp only [List.mem_cons,List.not_mem_nil,or_false]
    omega
  obtain ⟨hz,hd,he,hr⟩ := hall m hm negative
  exact ⟨fun h => absurd h hz,hd,he,hr⟩

theorem half_step_le {x : Binary64} (h : x.isFinite = true) (ht : ¬x.Top) :
    (2 * x.mantissa + 1) * 2 ^ (x.exponent - 1) ≤ margin := by
  simp only [isFinite,Bool.and_eq_true,decide_eq_true_eq] at h
  unfold margin
  rcases eq_or_lt_of_le h.2 with he | he
  · have hm : x.mantissa ≤ 0x1ffffffffffffc := Nat.not_lt.mp (fun hm => ht ⟨hm,he⟩)
    have hm' : (x.mantissa : ℚ) ≤ 0x1ffffffffffffc := by exact_mod_cast hm
    rw [he]
    apply mul_le_mul_of_nonneg_right _ (by positivity)
    linarith
  · have hm : (x.mantissa : ℚ) ≤ 0x1fffffffffffff := by exact_mod_cast Nat.le_of_lt_succ h.1.1
    have hpow : (2 : ℚ) ^ (x.exponent - 1) ≤ 2 ^ (969 : Int) := by
      unfold greatestExponent at he
      exact zpow_le_zpow_right₀ one_le_two (by omega)
    have hdouble : (2 : ℚ) ^ (970 : Int) = 2 ^ (969 : Int) * 2 := zpow_add_one₀ two_ne_zero 969
    calc (2 * (x.mantissa : ℚ) + 1) * 2 ^ (x.exponent - 1)
        ≤ (2 ^ 54 - 1) * 2 ^ (969 : Int) :=
          mul_le_mul (by linarith) hpow (by positivity) (by norm_num)
      _ ≤ ((2 ^ 54 - 7) * 2) * 2 ^ (969 : Int) :=
          mul_le_mul_of_nonneg_right (by norm_num) (by positivity)
      _ = (2 ^ 54 - 7) * 2 ^ (970 : Int) := by rw [hdouble]; ring

theorem readable_of_le {d : Decimal} (hd : d.digits ≤ 10 ^ 17) (hpos : 0 < d.value.toRat)
    (h : d.value.toRat ≤ margin) : d.Readable := by
  rw [toRat_value] at hpos h
  have hz : d.digits ≠ 0 := by
    intro hz
    rw [hz,Nat.cast_zero,zero_mul] at hpos
    exact lt_irrefl _ hpos
  refine ⟨fun h => absurd h hz,hd,?_,ofDecimal?_isSome (hd.trans_lt (by decide)) h⟩
  have hdigits : (1 : ℚ) ≤ d.digits := by exact_mod_cast Nat.one_le_iff_ne_zero.mpr hz
  have hmul : (10 : ℚ) ^ d.exponent ≤ d.digits * 10 ^ d.exponent :=
    le_mul_of_one_le_left (by positivity) hdigits
  have hlt : (10 : ℚ) ^ d.exponent < 10 ^ (309 : Int) := by
    rw [zpow_ofNat]
    exact (hmul.trans h).trans_lt (margin_lt.trans limit_lt_ten)
  have hexp := (zpow_lt_zpow_iff_right₀ (by norm_num)).mp hlt
  omega

/-- Whatever number is printed, it can be read. -/
theorem shortest_readable {x : Binary64} (h : x.isFinite = true) : x.shortest.Readable := by
  by_cases ht : x.Top
  · exact top_readable h ht
  unfold shortest
  split
  · exact zero_readable
  · rename_i hz
    have hm : 0 < x.mantissa := Nat.pos_of_ne_zero (by simpa [isZero] using hz)
    have hn : 0 < x.magnitude.num := by
      unfold magnitude scaled
      split
      · exact Nat.mul_pos hm (Nat.pow_pos two_pos)
      · exact hm
    dsimp only
    split
    · rename_i d hd
      obtain ⟨i,hi,hd⟩ := List.exists_of_findSome?_eq_some hd
      obtain ⟨hdigits,hr⟩ := onGrid?_some x.magnitude_den (lt_leadExponent hn x.magnitude_den) hd
      obtain ⟨hpos,hle⟩ := roundsTo_bounds hm (value_den d) hr
      obtain ⟨hless,hv⟩ := dropZeros_kept 17 d
      have hpow : 10 ^ (i + 1) ≤ 10 ^ 17 :=
        Nat.pow_le_pow_right (by decide) (List.mem_range.mp hi)
      exact readable_of_le (hless.trans (hdigits.trans hpow)) (hv ▸ hpos)
        (hv ▸ hle.trans (half_step_le h ht))
    · exact zero_readable

end Binary64

end BuildFarm
