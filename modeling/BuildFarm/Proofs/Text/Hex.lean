import BuildFarm.Text.Hex
import Mathlib.Data.List.Induction
import Mathlib.Tactic.Ring

namespace BuildFarm.Text

theorem hexValue?_hexDigit {d : Nat} (h : d < 16) : hexValue? (hexDigit d) = some d := by
  have hall : ∀ d : Fin 16, hexValue? (hexDigit d) = some d.val := by decide
  exact hall ⟨d,h⟩

theorem hexDigits_succ (width n : Nat) :
    hexDigits (width + 1) n = hexDigits width (n / 16) ++ [hexDigit (n % 16)] := by
  simp only [hexDigits,List.range_succ,List.map_append,List.map_cons,List.map_nil]
  congr 1
  · apply List.map_congr_left
    intro i hi
    have hi := List.mem_range.mp hi
    have hw : width + 1 - 1 - i = width - 1 - i + 1 := by omega
    have hp : Nat.pow 16 (width - 1 - i + 1) = 16 * Nat.pow 16 (width - 1 - i) := Nat.pow_succ'
    rw [hw,hp,Nat.div_div_eq_div_mul]
  · simp

theorem hexDigits_length (width n : Nat) : (hexDigits width n).length = width := by
  simp [hexDigits]

theorem mem_hexDigits {c : Char} (h : c ∈ hexDigits width n) : ∃ d < 16, c = hexDigit d := by
  obtain ⟨i,_,rfl⟩ := List.mem_map.mp h
  exact ⟨_,Nat.mod_lt _ (by decide),rfl⟩

/-- What the digits stand for, read from the front. -/
theorem hexDigits_value (width n : Nat) (start : Nat) :
    (hexDigits width n).foldl (fun m c => do return (← m) * 16 + (← hexValue? c)) (some start) =
      some (start * 16 ^ width + n % 16 ^ width) := by
  induction width generalizing n with
  | zero => simp [hexDigits,Nat.mod_one]
  | succ width ih =>
    have hd := hexValue?_hexDigit (Nat.mod_lt n (by decide : 0 < 16))
    rw [hexDigits_succ,List.foldl_append,ih]
    simp only [List.foldl_cons,List.foldl_nil,hd,Option.pure_def,Option.bind_eq_bind,
      Option.bind_some,Option.some.injEq]
    rw [Nat.pow_succ',Nat.mod_mul]
    ring

theorem isDigit_digits {c : Char} (h : c ∈ digits n) : isDigit c = true := by
  have hd := Nat.isDigit_of_mem_toDigits (by decide) (by decide) h
  simpa [isDigit,Char.isDigit,Char.le_def] using hd

theorem digits_ne_nil (n : Nat) : digits n ≠ [] :=
  Nat.toDigits_ne_nil

theorem ofDigits_digits (n : Nat) : ofDigits (digits n) = n := by
  have h := Nat.ofDigitChars_ten_toDigits (n := n)
  rw [Nat.ofDigitChars_eq_foldl] at h
  simpa [ofDigits,digits,digitValue,Nat.mul_comm] using h

/-- Only zero itself begins with a zero. -/
theorem digits_zero_front {n : Nat} (h : digits n = '0' :: rest) : n = 0 := by
  induction n using Nat.strongRecOn generalizing rest with
  | ind n ih =>
    by_contra hn
    rw [digits,Nat.toDigits_eq_if (by decide)] at h
    split at h
    · rename_i hlt
      have hall : ∀ d : Fin 10, d.val ≠ 0 → d.val.digitChar ≠ '0' := by decide
      exact hall ⟨n,hlt⟩ hn (List.cons.inj h).1
    · rename_i hge
      obtain ⟨c,cs,hc⟩ := List.exists_cons_of_ne_nil (digits_ne_nil (n / 10))
      have hfront : digits (n / 10) = '0' :: cs := by
        rw [digits] at hc
        rw [hc,List.cons_append] at h
        rw [digits,hc,(List.cons.inj h).1]
      have hz := ih (n / 10) (Nat.div_lt_self (Nat.pos_of_ne_zero hn) (by decide)) hfront
      omega

/-- No digits follow a zero in front. -/
theorem digits_front (n : Nat) (c : Char) (cs : List Char) : digits n ≠ '0' :: c :: cs := by
  intro h
  have hz := digits_zero_front h
  subst hz
  cases h

theorem isDigit_padded {c : Char} (h : c ∈ padded width n) : isDigit c = true := by
  rcases List.mem_append.mp h with h | h
  · rw [List.eq_of_mem_replicate h]
    decide
  · exact isDigit_digits h

theorem padded_ne_nil (width n : Nat) : padded width n ≠ [] :=
  List.append_ne_nil_of_right_ne_nil _ (digits_ne_nil n)

theorem ofDigits_append (cs ds : List Char) :
    ofDigits (cs ++ ds) = ds.foldl (fun n c => n * 10 + digitValue c) (ofDigits cs) :=
  List.foldl_append

theorem ofDigits_snoc (cs : List Char) (d : Char) :
    ofDigits (cs ++ [d]) = ofDigits cs * 10 + digitValue d :=
  ofDigits_append cs [d]

/-- More digits make no less of a number. -/
theorem ofDigits_le_append (cs ds : List Char) : ofDigits cs ≤ ofDigits (cs ++ ds) := by
  induction ds using List.reverseRecOn with
  | nil => rw [List.append_nil]
  | append_singleton ds d ih =>
    rw [← List.append_assoc,ofDigits_snoc]
    omega

theorem ofDigits_then_zeros (cs : List Char) (k : Nat) :
    ofDigits (cs ++ List.replicate k '0') = ofDigits cs * 10 ^ k := by
  induction k with
  | zero => simp
  | succ k ih =>
    have hz : digitValue '0' = 0 := by decide
    rw [List.replicate_succ',← List.append_assoc,ofDigits_snoc,ih,hz,Nat.pow_succ]
    ring

theorem ofDigits_after_zeros (k : Nat) (ds : List Char) :
    ofDigits (List.replicate k '0' ++ ds) = ofDigits ds := by
  have hz : ofDigits (List.replicate k '0') = 0 := by
    have h := ofDigits_then_zeros [] k
    rw [List.nil_append] at h
    exact h.trans (Nat.zero_mul _)
  rw [ofDigits_append,hz]
  rfl

theorem ofDigits_padded (width n : Nat) : ofDigits (padded width n) = n := by
  rw [padded,ofDigits_after_zeros,ofDigits_digits]

/-- A number that has room is padded to the width. -/
theorem padded_length {width n : Nat} (hw : 0 < width) (h : n < 10 ^ width) :
    (padded width n).length = width := by
  have hd : (digits n).length ≤ width := (Nat.length_toDigits_le_iff (by decide) hw).mpr h
  simp [padded,hd]

theorem digits_length_le {n k : Nat} (hk : 0 < k) : (digits n).length ≤ k ↔ n < 10 ^ k :=
  Nat.length_toDigits_le_iff (by decide) hk

theorem ofDigits_lt {ds : List Char} (h : ∀ c ∈ ds, isDigit c = true) :
    ofDigits ds < 10 ^ ds.length := by
  have hv {c : Char} (hc : isDigit c = true) : digitValue c < 10 := by
    simp only [isDigit,Bool.and_eq_true,decide_eq_true_eq,Char.le_def] at hc
    have hlast : c.toNat ≤ 57 := UInt32.le_iff_toNat_le.mp hc.2
    unfold digitValue
    omega
  induction ds using List.reverseRecOn with
  | nil => simp [ofDigits]
  | append_singleton ds c ih =>
    have hi := ih (fun d hd => h d (List.mem_append_left _ hd))
    have hc := hv (h c (by simp))
    unfold ofDigits at hi ⊢
    rw [List.foldl_append,List.length_append,List.length_singleton,Nat.pow_succ]
    simp only [List.foldl_cons,List.foldl_nil]
    omega

theorem lt_pow_digits (n : Nat) : n < 10 ^ (digits n).length := by
  have h : ofDigits (digits n) < 10 ^ (digits n).length := ofDigits_lt (fun c => isDigit_digits)
  rwa [ofDigits_digits] at h

theorem pow_digits_le {n : Nat} (h : 0 < n) : 10 ^ ((digits n).length - 1) ≤ n := by
  cases hl : (digits n).length - 1 with
  | zero => exact h
  | succ k =>
    by_contra hn
    have hle := (digits_length_le (Nat.succ_pos k)).mpr (Nat.not_le.mp hn)
    omega

end BuildFarm.Text
