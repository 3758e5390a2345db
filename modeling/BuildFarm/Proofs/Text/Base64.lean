import BuildFarm.Proofs.Outcome
import BuildFarm.Proofs.Text.Percent
import BuildFarm.Text.Base64

namespace BuildFarm.Base64

/-- A symbol of the alphabet is read as the six bits that it stands for, and it cannot be taken for
the padding. -/
structure Form.Regular (form : Form) : Prop where
  value : ∀ n < 64, value? form (symbol form n) = some n
  symbol : ∀ n < 64, symbol form n ≠ pad

theorem standard_regular : standard.Regular :=
  ⟨by decide,by decide⟩

/-- The groups of six bits. The last one is filled up with zeros. -/
def sextets : Bytes → List Nat
  | [] => []
  | [a] => [a.toNat / 4,a.toNat % 4 * 16]
  | [a,b] => [a.toNat / 4,a.toNat % 4 * 16 + b.toNat / 16,b.toNat % 16 * 4]
  | a :: b :: c :: rest =>
    a.toNat / 4 :: (a.toNat % 4 * 16 + b.toNat / 16) :: (b.toNat % 16 * 4 + c.toNat / 64) ::
      (c.toNat % 64) :: sextets rest

/-- How many pads fill up the last group of symbols. -/
def missing (bs : Bytes) : Nat :=
  (3 - bs.length % 3) % 3

theorem missing_three (a b c : UInt8) (rest : Bytes) : missing (a :: b :: c :: rest) = missing rest := by
  simp only [missing,List.length_cons]
  omega

theorem sextets_lt (bs : Bytes) : ∀ n ∈ sextets bs, n < 64 := by
  have hbyte (a : UInt8) : a.toNat < 256 := a.toNat_lt
  fun_induction sextets bs with
  | case1 => nofun
  | case2 a =>
    have ha := hbyte a
    simp only [List.forall_mem_cons,List.not_mem_nil,false_implies,implies_true,and_true]
    omega
  | case3 a b =>
    have ha := hbyte a
    have hb := hbyte b
    simp only [List.forall_mem_cons,List.not_mem_nil,false_implies,implies_true,and_true]
    omega
  | case4 a b c rest ih =>
    have ha := hbyte a
    have hb := hbyte b
    have hc := hbyte c
    simp only [List.forall_mem_cons]
    exact ⟨by omega,by omega,by omega,by omega,ih⟩

/-- The symbols of the bytes, and so many pads behind them. -/
def written (form : Form) (bs : Bytes) (pads : Nat) : Bytes :=
  (sextets bs).map (symbol form) ++ List.replicate pads pad

theorem written_forall {form : Form} {P : UInt8 → Prop} (hs : ∀ n < 64, P (symbol form n))
    (hp : P pad) {bs : Bytes} {pads : Nat} : ∀ b ∈ written form bs pads, P b := by
  intro b hb
  rcases List.mem_append.mp hb with hb | hb
  · obtain ⟨n,hn,rfl⟩ := List.mem_map.mp hb
    exact hs n (sextets_lt bs n hn)
  · rw [List.eq_of_mem_replicate hb]
    exact hp

theorem encode_written (form : Form) (bs : Bytes) :
    encode form bs = written form bs (if form.padding = .optional then missing bs else 0) := by
  unfold written
  fun_induction sextets bs with
  | case1 => simp [encode,missing]
  | case2 a =>
    rw [encode]
    split <;> rfl
  | case3 a b =>
    rw [encode]
    split <;> rfl
  | case4 a b c rest ih =>
    rw [encode,missing_three,ih]
    rfl

theorem written_length (form : Form) (bs : Bytes) (pads : Nat) :
    (written form bs pads).length = (sextets bs).length + pads := by
  rw [written,List.length_append,List.length_map,List.length_replicate]

/-- A text never has one symbol more than whole groups. -/
theorem sextets_length (bs : Bytes) (hk : k ≤ missing bs) : ((sextets bs).length + k) % 4 ≠ 1 := by
  fun_induction sextets bs with
  | case1 =>
    simp only [missing,List.length_nil] at hk ⊢
    omega
  | case2 a =>
    simp only [missing,List.length_cons,List.length_nil] at hk ⊢
    omega
  | case3 a b =>
    simp only [missing,List.length_cons,List.length_nil] at hk ⊢
    omega
  | case4 a b c rest ih =>
    rw [missing_three] at hk
    have h := ih hk
    simp only [List.length_cons]
    omega

section

variable {form : Form}

theorem valueAt_symbol (hf : form.Regular) (h : n < 64) (offset : Nat) :
    valueAt form offset (symbol form n) = .ok n := by
  rw [valueAt,hf.value n h]

theorem lastGroup_symbols (hf : form.Regular) {values : List Nat} (h : ∀ n ∈ values, n < 64)
    (offset at_ : Nat) (seen : List Nat) (tail : Bytes) :
    lastGroup form offset seen none at_ (values.map (symbol form) ++ tail) =
      lastGroup form offset (values.reverse ++ seen) none (at_ + values.length) tail := by
  induction values generalizing seen at_ with
  | nil => rfl
  | cons n values ih =>
    have hn := h n List.mem_cons_self
    rw [List.map_cons,List.cons_append,lastGroup,if_neg (hf.symbol n hn)]
    simp only [valueAt_symbol hf hn]
    rw [ok_bind,ih (fun m hm => h m (List.mem_cons_of_mem _ hm))]
    simp [Nat.add_comm,Nat.add_left_comm]

theorem lastGroup_pads (offset : Nat) (seen : List Nat) (k : Nat) {begun : Option Nat} {at_ : Nat}
    (h : 2 ≤ at_) : lastGroup form offset seen begun at_ (List.replicate k pad) =
      .ok (seen.reverse,begun.isSome || decide (0 < k)) := by
  induction k generalizing begun at_ with
  | zero => simp [lastGroup]
  | succ k ih =>
    rw [List.replicate_succ,lastGroup.eq_def]
    dsimp only
    rw [if_pos rfl,if_neg (Nat.not_lt.mpr h),ih (Nat.le_succ_of_le h)]
    simp

/-- Two symbols or more, with pads behind them where the form allows for them. -/
theorem decodeLast_symbols (hf : form.Regular) (hk : k = 0 ∨ form.padding = .optional)
    {values : List Nat} (h : ∀ n ∈ values, n < 64) (hl : 2 ≤ values.length) (offset : Nat) :
    decodeLast form offset (values.map (symbol form) ++ List.replicate k pad) =
      lastBytes offset (values.map (symbol form) ++ List.replicate k pad) values := by
  unfold decodeLast
  rw [lastGroup_symbols hf h,lastGroup_pads _ _ _ (by omega),List.append_nil,List.reverse_reverse]
  have hpadded : (decide (0 < k) && decide (form.padding = .refused)) = false := by
    rcases hk with rfl | hk
    · rfl
    · simp [hk]
  simp only [Option.isSome_none,Bool.false_or]
  change (if values.length < 2 then _ else if _ then _ else _) = _
  rw [if_neg (Nat.not_lt.mpr hl),hpadded,if_neg Bool.false_ne_true]

end

theorem join_sextets (a b c : UInt8) :
    join (a.toNat / 4) (a.toNat % 4 * 16 + b.toNat / 16) (b.toNat % 16 * 4 + c.toNat / 64)
      (c.toNat % 64) = [a,b,c] := by
  have ha := a.toNat_lt
  have hb := b.toNat_lt
  have hc := c.toNat_lt
  have hfirst : a.toNat / 4 * 4 + (a.toNat % 4 * 16 + b.toNat / 16) / 16 = a.toNat := by omega
  have hsecond : (a.toNat % 4 * 16 + b.toNat / 16) % 16 * 16 +
      (b.toNat % 16 * 4 + c.toNat / 64) / 4 = b.toNat := by omega
  have hthird : (b.toNat % 16 * 4 + c.toNat / 64) % 4 * 64 + c.toNat % 64 = c.toNat := by omega
  rw [join,hfirst,hsecond,hthird,UInt8.ofNat_toNat,UInt8.ofNat_toNat,UInt8.ofNat_toNat]

/-- Bytes of which there are no more than make one group of symbols. -/
inductive Few : Bytes → Prop
  | one (a : UInt8) : Few [a]
  | two (a b : UInt8) : Few [a,b]
  | three (a b c : UInt8) : Few [a,b,c]

namespace Few

variable {bs : Bytes}

theorem length (h : Few bs) : 2 ≤ (sextets bs).length ∧ (sextets bs).length + missing bs = 4 := by
  cases h <;> exact ⟨by simp [sextets],by simp [sextets,missing]⟩

theorem lastBytes (h : Few bs) (offset : Nat) (group : Bytes) :
    lastBytes offset group (sextets bs) = .ok bs := by
  cases h with
  | one a =>
    have hjoin : (join (a.toNat / 4) (a.toNat % 4 * 16) 0 0).take 1 = [a] :=
      congrArg (List.take 1) (join_sextets a 0 0)
    rw [sextets,Base64.lastBytes,if_pos (by omega),hjoin]
  | two a b =>
    have hjoin : (join (a.toNat / 4) (a.toNat % 4 * 16 + b.toNat / 16) (b.toNat % 16 * 4) 0).take 2 =
        [a,b] := congrArg (List.take 2) (join_sextets a b 0)
    rw [sextets,Base64.lastBytes,if_pos (by omega),hjoin]
  | three a b c => exact congrArg Except.ok (join_sextets a b c)

end Few

section

variable {form : Form} {bs : Bytes}

theorem decodeFrom_short {text : Bytes} (h : text.length ≤ 4) (offset : Nat) :
    decodeFrom form offset text = decodeLast form offset text := by
  fun_cases decodeFrom form offset text with
  | case1 =>
    simp only [List.length_cons] at h
    omega
  | case2 => rfl

theorem decodeFrom_few (hf : form.Regular) (h : Few bs) (hk : k ≤ missing bs)
    (hp : k = 0 ∨ form.padding = .optional) (offset : Nat) :
    decodeFrom form offset (written form bs k) = .ok bs := by
  obtain ⟨htwo,hfour⟩ := h.length
  have hshort : (written form bs k).length ≤ 4 := by
    rw [written_length]
    omega
  rw [decodeFrom_short hshort,written,decodeLast_symbols hf hp (sextets_lt bs) htwo,h.lastBytes]

/-- A group with more of the text behind it. -/
theorem decodeFrom_group (hf : form.Regular) (ha : a < 64) (hb : b < 64) (hc : c < 64) (hd : d < 64)
    {text : Bytes} (hn : text ≠ []) (h : decodeFrom form (offset + 4) text = .ok bs) :
    decodeFrom form offset (symbol form a :: symbol form b :: symbol form c :: symbol form d :: text) =
      .ok (join a b c d ++ bs) := by
  obtain ⟨e,rest,rfl⟩ := List.exists_cons_of_ne_nil hn
  rw [decodeFrom,valueAt_symbol hf ha,valueAt_symbol hf hb,valueAt_symbol hf hc,
    valueAt_symbol hf hd,h]
  rfl

theorem written_ne_nil (hn : bs ≠ []) : written form bs k ≠ [] := by
  unfold written
  fun_cases sextets bs with
  | case1 => exact absurd rfl hn
  | case2 => nofun
  | case3 => nofun
  | case4 => nofun

theorem decodeFrom_written (hf : form.Regular) (hk : k ≤ missing bs)
    (hp : k = 0 ∨ form.padding = .optional) (hn : bs ≠ []) (offset : Nat) :
    decodeFrom form offset (written form bs k) = .ok bs := by
  unfold written
  fun_induction sextets bs generalizing offset with
  | case1 => exact absurd rfl hn
  | case2 a => exact decodeFrom_few hf (.one a) hk hp offset
  | case3 a b => exact decodeFrom_few hf (.two a b) hk hp offset
  | case4 a b c rest ih =>
    cases rest with
    | nil => exact decodeFrom_few hf (.three a b c) hk hp offset
    | cons e rest =>
      have hlt := sextets_lt (a :: b :: c :: e :: rest)
      simp only [sextets,List.forall_mem_cons] at hlt
      obtain ⟨h1,h2,h3,h4,_⟩ := hlt
      have hmore : written form (e :: rest) k ≠ [] := written_ne_nil (List.cons_ne_nil e rest)
      rw [missing_three] at hk
      have h := decodeFrom_group hf h1 h2 h3 h4 hmore (ih hk (List.cons_ne_nil e rest) (offset + 4))
      rwa [join_sextets a b c] at h

/-- Pads may be left out where the form makes nothing of them. -/
theorem decode_written (hf : form.Regular) (hk : k ≤ missing bs)
    (hp : k = 0 ∨ form.padding = .optional) :
    decode form (written form bs k) = .ok bs := by
  by_cases hn : bs = []
  · subst hn
    obtain rfl : k = 0 := Nat.le_zero.mp hk
    rfl
  · have hlength : (written form bs k).length % 4 ≠ 1 := by
      rw [written_length]
      exact sextets_length bs hk
    unfold decode
    rw [List.getLast?_eq_some_getLast (written_ne_nil hn)]
    dsimp only
    rw [if_neg (fun h => hlength h.1),decodeFrom_written hf hk hp hn]

/-- What is read of a text is what it was made of. -/
theorem decode_encode (hf : form.Regular) (bs : Bytes) : decode form (encode form bs) = .ok bs := by
  rw [encode_written]
  refine decode_written hf ?_ ?_
  · split
    · exact Nat.le_refl _
    · exact Nat.zero_le _
  · split
    · exact Or.inr ‹_›
    · exact Or.inl rfl

end

/-- The characters that the bytes are. -/
def chars (bs : Bytes) : List Char :=
  bs.map (fun b => Char.ofNat b.toNat)

theorem char_ascii : ∀ n < 128, (Char.ofNat n).toNat = n := by
  decide

theorem ofText_chars {bs : Bytes} (h : ∀ b ∈ bs, b.toNat < 128) :
    Bytes.ofText (String.ofList (chars bs)) = bs := by
  induction bs with
  | nil => rfl
  | cons b bs ih =>
    have hb := h b List.mem_cons_self
    have hc := char_ascii b.toNat hb
    rw [chars,List.map_cons,Bytes.ofText_ascii (by rwa [hc]),hc,UInt8.ofNat_toNat]
    exact congrArg (b :: ·) (ih (fun b hm => h b (List.mem_cons_of_mem _ hm)))

end BuildFarm.Base64
