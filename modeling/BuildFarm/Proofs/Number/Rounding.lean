import BuildFarm.Number.Binary64
import Mathlib.Algebra.Order.Field.Power
import Mathlib.Algebra.Order.Field.Rat
import Mathlib.Tactic.FieldSimp
import Mathlib.Tactic.GCongr
import Mathlib.Tactic.Linarith
import Mathlib.Tactic.NormNum
import Mathlib.Tactic.Positivity
import Mathlib.Tactic.Ring

namespace BuildFarm

namespace Ratio

/-- The fraction as a number. -/
def toRat (a : Ratio) : ℚ :=
  a.num / a.den

theorem toRat_mul (a b : Ratio) : (a.mul b).toRat = a.toRat * b.toRat := by
  simp only [toRat,mul,Nat.cast_mul]
  rw [mul_div_mul_comm]

theorem toRat_inv (a : Ratio) : a.inv.toRat = a.toRat⁻¹ := by
  simp only [toRat,inv,inv_div]

theorem toRat_nonneg (a : Ratio) : 0 ≤ a.toRat := by
  unfold toRat
  positivity

theorem scaled_den {base : Nat} (hb : 0 < base) (n : Nat) (e : Int) :
    0 < (scaled n base e).den := by
  unfold scaled
  split
  · exact Nat.one_pos
  · exact Nat.pow_pos hb

theorem toRat_scaled {base : Nat} (hb : 0 < base) (n : Nat) (e : Int) :
    (scaled n base e).toRat = n * (base : ℚ) ^ e := by
  have hz : (base : ℚ) ≠ 0 := by exact_mod_cast hb.ne'
  unfold scaled toRat
  split
  · rename_i h
    obtain ⟨k,rfl⟩ := Int.eq_ofNat_of_zero_le h
    simp
  · rename_i h
    obtain ⟨k,hk⟩ := Int.eq_ofNat_of_zero_le (Int.neg_nonneg.mpr (Int.le_of_not_le h))
    obtain rfl : e = -(k : Int) := by omega
    simp [zpow_neg,div_eq_mul_inv]

theorem le_iff {a b : Ratio} (ha : 0 < a.den) (hb : 0 < b.den) :
    a.le b = true ↔ a.toRat ≤ b.toRat := by
  have ha' : (0 : ℚ) < a.den := by exact_mod_cast ha
  have hb' : (0 : ℚ) < b.den := by exact_mod_cast hb
  unfold le toRat
  rw [decide_eq_true_iff,div_le_div_iff₀ ha' hb']
  exact_mod_cast Iff.rfl

theorem lt_iff {a b : Ratio} (ha : 0 < a.den) (hb : 0 < b.den) :
    a.lt b = true ↔ a.toRat < b.toRat := by
  have ha' : (0 : ℚ) < a.den := by exact_mod_cast ha
  have hb' : (0 : ℚ) < b.den := by exact_mod_cast hb
  unfold lt toRat
  rw [decide_eq_true_iff,div_lt_div_iff₀ ha' hb']
  exact_mod_cast Iff.rfl

/-- The nearest whole number is one half away at most. -/
theorem nearest_near {a : Ratio} (ha : 0 < a.den) : |(a.nearest : ℚ) - a.toRat| ≤ 1 / 2 := by
  have hd : (0 : ℚ) < a.den := by exact_mod_cast ha
  have hparts : (a.num : ℚ) = a.den * (a.num / a.den : Nat) + (a.num % a.den : Nat) := by
    exact_mod_cast (Nat.div_add_mod a.num a.den).symm
  have hr : a.toRat = (a.num / a.den : Nat) + ((a.num % a.den : Nat) : ℚ) / a.den := by
    unfold toRat
    rw [hparts]
    field_simp
  have hlow : (0 : ℚ) ≤ ((a.num % a.den : Nat) : ℚ) / a.den := by positivity
  have hhigh : ((a.num % a.den : Nat) : ℚ) / a.den ≤ 1 := by
    rw [div_le_one hd]
    exact_mod_cast (Nat.mod_lt a.num ha).le
  have below (h : 2 * (a.num % a.den) ≤ a.den) :
      ((a.num % a.den : Nat) : ℚ) / a.den ≤ 1 / 2 := by
    rw [div_le_div_iff₀ hd two_pos]
    exact_mod_cast (by omega : a.num % a.den * 2 ≤ 1 * a.den)
  have above (h : a.den ≤ 2 * (a.num % a.den)) :
      1 / 2 ≤ ((a.num % a.den : Nat) : ℚ) / a.den := by
    rw [div_le_div_iff₀ two_pos hd]
    exact_mod_cast (by omega : 1 * a.den ≤ a.num % a.den * 2)
  rw [hr,abs_le]
  unfold nearest
  dsimp only
  split
  · rename_i h
    have hb := below h.le
    constructor <;> linarith
  · split
    · rename_i h
      have hb := below h.le
      have ha := above h.ge
      have hodd : ((a.num / a.den % 2 : Nat) : ℚ) ≤ 1 := by
        exact_mod_cast Nat.le_of_lt_succ (Nat.mod_lt (a.num / a.den) two_pos)
      have heven : (0 : ℚ) ≤ ((a.num / a.den % 2 : Nat) : ℚ) := by positivity
      push_cast at hodd heven ⊢
      constructor <;> linarith
    · have ha := above (by omega)
      push_cast
      constructor <;> linarith

end Ratio

namespace Binary64

open Ratio

/-- What is less than this is rounded to a finite number. -/
def limit : ℚ := (2 ^ 54 - 1) * 2 ^ (970 : Int)

/-- A few steps below the limit. -/
def margin : ℚ := (2 ^ 54 - 7) * 2 ^ (970 : Int)

theorem margin_lt : margin < limit :=
  mul_lt_mul_of_pos_right (by norm_num) (by positivity)

theorem limit_lt : limit < 2 ^ (1024 : Int) := by
  have h : (2 : ℚ) ^ (1024 : Int) = 2 ^ 54 * 2 ^ (970 : Int) := by
    rw [← zpow_natCast,← zpow_add₀ two_ne_zero]
    rfl
  rw [h,limit]
  exact mul_lt_mul_of_pos_right (by norm_num) (by positivity)

theorem limit_eq : limit = ((0x3fffffffffffff * 2 ^ 970 : Nat) : ℚ) := by
  rw [limit,Nat.cast_mul,Nat.cast_pow,← zpow_natCast]
  congr 1
  norm_num

theorem magnitude_den (x : Binary64) : 0 < x.magnitude.den :=
  scaled_den two_pos _ _

theorem toRat_magnitude (x : Binary64) : x.magnitude.toRat = x.mantissa * 2 ^ x.exponent :=
  toRat_scaled two_pos _ _

theorem log2_bounds {n : Nat} (h : 0 < n) :
    (2 : ℚ) ^ (n.log2 : Int) ≤ n ∧ (n : ℚ) < 2 ^ ((n.log2 : Int) + 1) := by
  constructor
  · rw [zpow_natCast]
    exact_mod_cast Nat.log2_self_le h.ne'
  · have hlt : (n : ℚ) < 2 ^ (n.log2 + 1) := by exact_mod_cast Nat.lt_log2_self
    exact_mod_cast hlt

/-- A quotient has as many bits as its parts differ by, or one more. -/
theorem quotient_bounds {a : Ratio} (hn : 0 < a.num) (hd : 0 < a.den) :
    (2 : ℚ) ^ ((a.num.log2 : Int) - a.den.log2 - 1) ≤ a.toRat ∧
      a.toRat < 2 ^ ((a.num.log2 : Int) - a.den.log2 + 1) := by
  have hd' : (0 : ℚ) < a.den := by exact_mod_cast hd
  obtain ⟨hn1,hn2⟩ := log2_bounds hn
  obtain ⟨hd1,hd2⟩ := log2_bounds hd
  constructor
  · rw [toRat,le_div_iff₀ hd']
    calc (2 : ℚ) ^ ((a.num.log2 : Int) - a.den.log2 - 1) * a.den
        ≤ 2 ^ ((a.num.log2 : Int) - a.den.log2 - 1) * 2 ^ ((a.den.log2 : Int) + 1) := by gcongr
      _ = 2 ^ (a.num.log2 : Int) := by
        rw [← zpow_add₀ two_ne_zero]
        congr 1
        ring
      _ ≤ a.num := hn1
  · rw [toRat,div_lt_iff₀ hd']
    calc (a.num : ℚ) < 2 ^ ((a.num.log2 : Int) + 1) := hn2
      _ = 2 ^ ((a.num.log2 : Int) - a.den.log2 + 1) * 2 ^ (a.den.log2 : Int) := by
        rw [← zpow_add₀ two_ne_zero]
        congr 1
        ring
      _ ≤ 2 ^ ((a.num.log2 : Int) - a.den.log2 + 1) * a.den := by gcongr

/-- The exponent is the one at which the mantissa has 53 bits, or the least one. -/
theorem exponentFor_bounds {a : Ratio} (hn : 0 < a.num) (hd : 0 < a.den) :
    leastExponent ≤ exponentFor a ∧ a.toRat < 2 ^ (exponentFor a + 53) ∧
      (exponentFor a = leastExponent ∨ 2 ^ (exponentFor a + 52) ≤ a.toRat) := by
  obtain ⟨hlow,hhigh⟩ := quotient_bounds hn hd
  generalize he : (a.num.log2 : Int) - a.den.log2 - 53 = e
  have hwhole : ∃ w : Int, exponentFor a = max w leastExponent ∧ a.toRat < 2 ^ (w + 53) ∧
      2 ^ (w + 52) ≤ a.toRat := by
    refine ⟨if (scaled 1 2 (e + 53)).le a then e + 1 else e,by rw [exponentFor,he],?_⟩
    have hiff := le_iff (scaled_den two_pos 1 (e + 53)) hd
    rw [toRat_scaled two_pos,Nat.cast_one,one_mul,Nat.cast_ofNat] at hiff
    split
    · rename_i h
      have hexp : e + 1 + 53 = (a.num.log2 : Int) - a.den.log2 + 1 := by omega
      have hexp' : e + 1 + 52 = e + 53 := by omega
      rw [hexp,hexp']
      exact ⟨hhigh,hiff.mp h⟩
    · rename_i h
      have hexp : e + 52 = (a.num.log2 : Int) - a.den.log2 - 1 := by omega
      rw [hexp]
      exact ⟨not_le.mp (fun hle => h (hiff.mpr hle)),hlow⟩
  obtain ⟨w,hw,hlt,hle⟩ := hwhole
  rw [hw]
  refine ⟨le_max_right _ _,hlt.trans_le ?_,?_⟩
  · gcongr
    · norm_num
    · exact le_max_left _ _
  · rcases le_total w leastExponent with h | h
    · exact Or.inl (max_eq_right h)
    · rw [max_eq_left h]
      exact Or.inr hle

/-- The number that is found is half a step away at most, and a step is no more than the 53rd part
of the bits, or the least step that there is. -/
def Near (x : Binary64) (q : ℚ) : Prop :=
  |x.magnitude.toRat - q| ≤ max (q / 2 ^ 53) (2 ^ (leastExponent - 1))

theorem toRat_zero (negative : Bool) : (zero negative).magnitude.toRat = 0 := by
  rw [toRat_magnitude,zero,Nat.cast_zero,zero_mul]

/-- A whole number of steps is found that is half a step away at most. -/
theorem mantissa_near {a : Ratio} (hd : 0 < a.den) (e : Int) :
    |((a.mul (scaled 1 2 (-e))).nearest : ℚ) * 2 ^ e - a.toRat| ≤ 2 ^ (e - 1) := by
  have hpos : (0 : ℚ) < 2 ^ e := by positivity
  have hn := nearest_near (a := a.mul (scaled 1 2 (-e)))
    (Nat.mul_pos hd (scaled_den two_pos 1 (-e)))
  generalize (a.mul (scaled 1 2 (-e))).nearest = m at hn ⊢
  rw [toRat_mul,toRat_scaled two_pos,Nat.cast_one,one_mul,Nat.cast_ofNat,zpow_neg] at hn
  have hs : (m : ℚ) * 2 ^ e - a.toRat = (m - a.toRat * (2 ^ e)⁻¹) * 2 ^ e := by
    field_simp
  rw [hs,abs_mul,abs_of_pos hpos,zpow_sub_one₀ two_ne_zero]
  linarith [mul_le_mul_of_nonneg_right hn hpos.le]

section Steps

variable {q : ℚ} {e : Int}

theorem error_le (hlow : e = leastExponent ∨ 2 ^ (e + 52) ≤ q) :
    (2 : ℚ) ^ (e - 1) ≤ max (q / 2 ^ 53) (2 ^ (leastExponent - 1)) := by
  rcases hlow with hlow | hlow
  · apply le_max_of_le_right
    rw [hlow]
  · apply le_max_of_le_left
    rw [le_div_iff₀ (by positivity),← zpow_natCast,← zpow_add₀ two_ne_zero]
    exact (congrArg (fun k : Int => (2 : ℚ) ^ k) (by push_cast; ring)).trans_le hlow

/-- Below the limit the exponent is never too large, not even where the mantissa is rounded up to one
bit more. -/
theorem exponent_fits (h : q < limit) (hlow : e = leastExponent ∨ 2 ^ (e + 52) ≤ q) {m : Nat}
    (hnear : |(m : ℚ) * 2 ^ e - q| ≤ 2 ^ (e - 1)) :
    ¬(m = 0x20000000000000 ∧ e + 1 > greatestExponent) ∧ ¬e > greatestExponent := by
  unfold greatestExponent
  rcases hlow with hlow | hlow
  · rw [hlow,leastExponent]
    exact ⟨by omega,by omega⟩
  · have hlt : e + 52 < 1024 :=
      (zpow_lt_zpow_iff_right₀ one_lt_two).mp (hlow.trans_lt (h.trans limit_lt))
    refine ⟨?_,by omega⟩
    rintro ⟨rfl,hc⟩
    obtain rfl : e = 970 + 1 := by omega
    have hup := (abs_le.mp hnear).2
    rw [add_sub_cancel_right,zpow_add_one₀ two_ne_zero] at hup
    unfold limit at h
    generalize (2 : ℚ) ^ (970 : Int) = u at hup h
    push_cast at hup
    linarith

end Steps

/-- What is less than the limit is rounded. -/
theorem round?_near {a : Ratio} (hd : 0 < a.den) (h : a.toRat < limit) (negative : Bool) :
    ∃ x, round? negative a = some x ∧ x.Near a.toRat := by
  by_cases hz : a.num = 0
  · refine ⟨zero negative,by rw [round?,if_pos hz],?_⟩
    have ha : a.toRat = 0 := by rw [toRat,hz,Nat.cast_zero,zero_div]
    rw [Near,toRat_zero,ha,sub_zero,abs_zero]
    positivity
  obtain ⟨_,_,hlow⟩ := exponentFor_bounds (Nat.pos_of_ne_zero hz) hd
  rw [round?,if_neg hz]
  dsimp only
  generalize exponentFor a = e at hlow ⊢
  have hnear := mantissa_near hd e
  generalize (a.mul (scaled 1 2 (-e))).nearest = m at hnear ⊢
  obtain ⟨hup,hfits⟩ := exponent_fits h hlow hnear
  have hmag (x : Binary64) (hx : x.magnitude.toRat = m * 2 ^ e) : x.Near a.toRat := by
    rw [Near,hx]
    exact hnear.trans (error_le hlow)
  by_cases hc : m = 0x20000000000000
  · rw [if_pos hc]
    dsimp only
    rw [if_neg (by decide),if_neg (fun hg => hup ⟨hc,hg⟩)]
    refine ⟨_,rfl,hmag _ ?_⟩
    rw [toRat_magnitude,hc,zpow_add₀ two_ne_zero]
    push_cast
    ring
  · rw [if_neg hc]
    dsimp only
    rw [if_neg hfits]
    split
    · rename_i hm0
      exact ⟨_,rfl,hmag _ (by rw [toRat_zero,hm0,Nat.cast_zero,zero_mul])⟩
    · exact ⟨_,rfl,hmag _ (toRat_magnitude _)⟩

theorem Near.of_one_le {x : Binary64} (h : x.Near q) (hq : 1 ≤ q) :
    q * (1 - 1 / 2 ^ 53) ≤ x.magnitude.toRat ∧ x.magnitude.toRat ≤ q * (1 + 1 / 2 ^ 53) := by
  have hleast : (2 : ℚ) ^ (leastExponent - 1) ≤ q / 2 ^ 53 := by
    calc (2 : ℚ) ^ (leastExponent - 1) ≤ 2 ^ (-53 : Int) :=
          zpow_le_zpow_right₀ one_le_two (by decide)
      _ = 1 / 2 ^ 53 := by rw [zpow_neg,one_div]; rfl
      _ ≤ q / 2 ^ 53 := by gcongr
  rw [Near,max_eq_left hleast,abs_le] at h
  constructor <;> linarith

theorem Near.le_double {x : Binary64} (h : x.Near q) (hq : 0 ≤ q) :
    x.magnitude.toRat ≤ 2 * q + 1 := by
  have hleast : (2 : ℚ) ^ (leastExponent - 1) ≤ 1 := zpow_le_one_of_nonpos₀ one_le_two (by decide)
  have hpart : q / 2 ^ 53 ≤ q := div_le_self hq (one_le_pow₀ one_le_two)
  have hmax : max (q / 2 ^ 53) (2 ^ (leastExponent - 1)) ≤ q + 1 :=
    max_le (by linarith) (by linarith)
  linarith [(abs_le.mp (h.trans hmax)).2]

/-- All powers of ten up to this one have a number next to them. -/
theorem powerOfTen?_near {k : Nat} (hk : k ≤ 308) :
    ∃ p, powerOfTen? k = some p ∧ p.Near (10 ^ k) := by
  have ht : (⟨Nat.pow 10 k,1⟩ : Ratio).toRat = 10 ^ k := by
    rw [toRat,Nat.cast_one,div_one]
    exact_mod_cast rfl
  have hlt : (10 : ℚ) ^ k < limit := by
    calc (10 : ℚ) ^ k ≤ 10 ^ 308 := pow_le_pow_right₀ (by norm_num) hk
      _ = ((10 ^ 308 : Nat) : ℚ) := (Nat.cast_pow 10 308).symm
      _ < ((0x3fffffffffffff * 2 ^ 970 : Nat) : ℚ) := Nat.cast_lt.mpr (by decide +kernel)
      _ = limit := limit_eq.symm
  rw [← ht] at hlt ⊢
  rw [powerOfTen?,if_pos hk]
  exact round?_near Nat.one_pos hlt false

theorem ofNat?_near {n : Nat} (h : (n : ℚ) < limit) : ∃ x, ofNat? n = some x ∧ x.Near n := by
  have ht : (⟨n,1⟩ : Ratio).toRat = n := by rw [toRat,Nat.cast_one,div_one]
  rw [← ht] at h ⊢
  exact round?_near Nat.one_pos h false

theorem mul?_near {x y : Binary64} (h : x.magnitude.toRat * y.magnitude.toRat < limit) :
    ∃ z, mul? x y = some z ∧ z.Near (x.magnitude.toRat * y.magnitude.toRat) := by
  rw [← toRat_mul] at h ⊢
  exact round?_near (Nat.mul_pos x.magnitude_den y.magnitude_den) h _

theorem div?_near {x y : Binary64} (hy : 0 < y.magnitude.toRat)
    (h : x.magnitude.toRat / y.magnitude.toRat < limit) :
    ∃ z, div? x y = some z ∧ z.Near (x.magnitude.toRat / y.magnitude.toRat) := by
  have hn : 0 < y.magnitude.num := by
    apply Nat.pos_of_ne_zero
    intro hz
    rw [toRat,hz,Nat.cast_zero,zero_div] at hy
    exact lt_irrefl 0 hy
  rw [div_eq_mul_inv,← toRat_inv,← toRat_mul] at h ⊢
  exact round?_near (Nat.mul_pos x.magnitude_den hn) h _

theorem limit_lt_ten : limit < 10 ^ 309 := by
  calc limit = ((0x3fffffffffffff * 2 ^ 970 : Nat) : ℚ) := limit_eq
    _ < ((10 ^ 309 : Nat) : ℚ) := Nat.cast_lt.mpr (by decide +kernel)
    _ = 10 ^ 309 := Nat.cast_pow 10 309

theorem large_lt_limit : (2 : ℚ) ^ 100 < limit := by
  rw [limit_eq]
  exact_mod_cast (by decide +kernel : 2 ^ 100 < 0x3fffffffffffff * 2 ^ 970)

/-- A number that is not large does not become larger when it is divided by a power of ten. -/
theorem div?_down {x : Binary64} (hx : x.magnitude.toRat ≤ 2 ^ 65) (hk : 0 < k)
    (hp : powerOfTen? k = some p) : ∃ y, div? x p = some y ∧ y.magnitude.toRat ≤ 2 ^ 65 := by
  have hle : k ≤ 308 := by
    by_contra h
    rw [powerOfTen?,if_neg h] at hp
    cases hp
  obtain ⟨p',hp',hnear⟩ := powerOfTen?_near hle
  obtain rfl : p' = p := Option.some.inj (hp'.symm.trans hp)
  have hten : (10 : ℚ) ≤ 10 ^ k := le_self_pow₀ (by norm_num) hk.ne'
  have hfour : 4 ≤ p'.magnitude.toRat := by
    have h := (hnear.of_one_le (le_trans (by norm_num) hten)).1
    linarith
  have hquot : x.magnitude.toRat / p'.magnitude.toRat ≤ 2 ^ 63 := by
    rw [div_le_iff₀ (by linarith)]
    linarith
  have hnonneg : 0 ≤ x.magnitude.toRat / p'.magnitude.toRat :=
    div_nonneg (toRat_nonneg _) (toRat_nonneg _)
  obtain ⟨y,hy,hn⟩ := div?_near (by linarith)
    (hquot.trans_lt (lt_trans (by norm_num) large_lt_limit))
  exact ⟨y,hy,by linarith [hn.le_double hnonneg]⟩

/-- Scaling down a number that is not large gives a number, however small. -/
theorem scaleTenFrom_down {x : Binary64} {k : Int} (hx : x.magnitude.toRat ≤ 2 ^ 65) (hk : k < 0)
    (steps : Nat) : (scaleTenFrom steps x k).isSome = true := by
  have hneg {k : Int} (hk : k < 0) : ¬0 ≤ k := Int.not_le.mpr hk
  induction steps generalizing x k with
  | zero =>
    unfold scaleTenFrom
    split
    · rename_i p hp
      obtain ⟨y,hy,_⟩ := div?_down hx (Int.natAbs_pos.mpr hk.ne) hp
      rw [if_neg (hneg hk),hy]
      rfl
    · rw [if_neg (hneg hk)]
      split <;> rfl
  | succ steps ih =>
    unfold scaleTenFrom
    split
    · rename_i p hp
      obtain ⟨y,hy,_⟩ := div?_down hx (Int.natAbs_pos.mpr hk.ne) hp
      rw [if_neg (hneg hk),hy]
      rfl
    · rename_i hnone
      have hfar : 308 < k.natAbs := by
        by_contra hle
        obtain ⟨p,hp,_⟩ := powerOfTen?_near (Nat.not_lt.mp hle)
        rw [hnone] at hp
        cases hp
      obtain ⟨p,hp,_⟩ := powerOfTen?_near (Nat.le_refl 308)
      obtain ⟨y,hy,hle⟩ := div?_down hx (by decide) hp
      rw [if_neg (hneg hk)]
      split
      · rfl
      · simp only [hp,hy,Option.bind_eq_bind,Option.bind_some]
        exact ih hle (by omega)

theorem scaleTenFrom_zero {k : Int} (hk : 0 ≤ k) (steps : Nat) :
    (scaleTenFrom steps (zero false) k).isSome = true := by
  unfold scaleTenFrom
  split
  · rename_i p hp
    have hlt : (zero false).magnitude.toRat * p.magnitude.toRat < limit := by
      rw [toRat_zero,zero_mul]
      exact lt_trans (by norm_num) large_lt_limit
    obtain ⟨y,hy,_⟩ := mul?_near hlt
    rw [if_pos hk,hy]
    rfl
  · rfl

theorem ofDecimal?_scale {n : Nat} (hn : n < 0x10000000000000000) (k : Int) :
    ∃ x, ofNat? n = some x ∧ x.Near n ∧ ofDecimal? n k = scaleTenFrom 4 x k := by
  have hlimit : (n : ℚ) < limit := by
    refine lt_trans ?_ large_lt_limit
    exact_mod_cast hn.trans (by decide +kernel)
  obtain ⟨x,hx,hnear⟩ := ofNat?_near hlimit
  refine ⟨x,hx,hnear,?_⟩
  rw [ofDecimal?,hx]
  rfl

theorem ofDecimal?_down {n : Nat} {k : Int} (hn : n < 0x10000000000000000) (hk : k < 0) :
    (ofDecimal? n k).isSome = true := by
  obtain ⟨x,_,hnear,hscale⟩ := ofDecimal?_scale hn k
  have hn' : (n : ℚ) + 1 ≤ 2 ^ 64 := by exact_mod_cast hn
  rw [hscale]
  refine scaleTenFrom_down ?_ hk 4
  linarith [hnear.le_double (Nat.cast_nonneg n)]

/-- A decimal is read if it keeps a few steps from the limit, as its two parts are rounded before
their product is. -/
theorem ofDecimal?_isSome {n : Nat} {k : Int} (hn : n < 0x10000000000000000)
    (h : n * (10 : ℚ) ^ k ≤ margin) : (ofDecimal? n k).isSome = true := by
  rcases lt_or_ge k 0 with hk | hk
  · exact ofDecimal?_down hn hk
  obtain ⟨x,hx,hnear,hscale⟩ := ofDecimal?_scale hn k
  rw [hscale]
  rcases Nat.eq_zero_or_pos n with rfl | hpos
  · cases hx
    exact scaleTenFrom_zero hk 4
  obtain ⟨j,rfl⟩ := Int.eq_ofNat_of_zero_le hk
  rw [zpow_natCast] at h
  have hone : (1 : ℚ) ≤ n := by exact_mod_cast hpos
  have hten : (1 : ℚ) ≤ 10 ^ j := one_le_pow₀ (by norm_num)
  have hj : j ≤ 308 := by
    by_contra hj
    have hpow : (10 : ℚ) ^ 309 ≤ 10 ^ j := pow_le_pow_right₀ (by norm_num) (by omega)
    have hmul : (10 : ℚ) ^ j ≤ n * 10 ^ j := le_mul_of_one_le_left (by positivity) hone
    have hlt := (hpow.trans (hmul.trans h)).trans_lt (margin_lt.trans limit_lt_ten)
    exact lt_irrefl _ hlt
  obtain ⟨p,hp,hpnear⟩ := powerOfTen?_near hj
  have hlt : x.magnitude.toRat * p.magnitude.toRat < limit := by
    calc x.magnitude.toRat * p.magnitude.toRat
        ≤ (n * (1 + 1 / 2 ^ 53)) * (10 ^ j * (1 + 1 / 2 ^ 53)) := by
          exact mul_le_mul (hnear.of_one_le hone).2 (hpnear.of_one_le hten).2 (toRat_nonneg _)
            (by positivity)
      _ = n * 10 ^ j * (1 + 1 / 2 ^ 53) ^ 2 := by ring
      _ ≤ margin * (1 + 1 / 2 ^ 53) ^ 2 := by gcongr
      _ = (2 ^ 54 - 7) * (1 + 1 / 2 ^ 53) ^ 2 * 2 ^ (970 : Int) := mul_right_comm _ _ _
      _ < limit := mul_lt_mul_of_pos_right (by norm_num) (by positivity)
  obtain ⟨y,hy,_⟩ := mul?_near hlt
  unfold scaleTenFrom
  rw [Int.natAbs_natCast,hp]
  dsimp only
  rw [if_pos (Int.natCast_nonneg j),hy]
  rfl

end Binary64

end BuildFarm
