import BuildFarm.Proofs.Text.Base64

namespace BuildFarm.Base64

/-- Nothing else than a symbol of the alphabet has a value. -/
def Form.Legible (form : Form) : Prop :=
  ∀ b n, value? form b = some n → n < 64 ∧ symbol form n = b

theorem urlSafe_regular : urlSafe.Regular :=
  ⟨by decide,by decide⟩

theorem urlSafe_legible : urlSafe.Legible := by
  have hall : ∀ m < 256, ∀ n ∈ value? urlSafe (UInt8.ofNat m),
      n < 64 ∧ symbol urlSafe n = UInt8.ofNat m := by
    decide +kernel
  intro b n h
  have hb := hall b.toNat b.toNat_lt
  rw [UInt8.ofNat_toNat] at hb
  exact hb n h

section

variable {form : Form} {offset : Nat} {group text : Bytes} {values : List Nat} {bs : Bytes}

theorem valueAt_ok (hf : form.Legible) (h : valueAt form offset b = .ok n) :
    n < 64 ∧ symbol form n = b := by
  unfold valueAt at h
  split at h <;> cases h
  exact hf b n ‹_›

/-- Behind a pad there are pads alone. -/
theorem lastGroup_padded {seen : List Nat} {p at_ : Nat}
    (h : lastGroup form offset seen (some p) at_ group = .ok (values,padded)) :
    values = seen.reverse ∧ padded = true ∧ group = List.replicate group.length pad := by
  induction group generalizing p at_ with
  | nil =>
    cases h
    exact ⟨rfl,rfl,rfl⟩
  | cons b group ih =>
    unfold lastGroup at h
    split at h
    · rename_i hb
      split at h
      · cases h
      · obtain ⟨hv,hp,hg⟩ := ih h
        exact ⟨hv,hp,by rw [hb,List.length_cons,List.replicate_succ,← hg]⟩
    · cases h

/-- A last group is symbols with pads behind them. -/
theorem lastGroup_ok (hf : form.Legible) {seen : List Nat} {at_ : Nat}
    (h : lastGroup form offset seen none at_ group = .ok (values,padded)) :
    ∃ more k, values = seen.reverse ++ more ∧ (∀ n ∈ more, n < 64) ∧ padded = decide (0 < k) ∧
      group = more.map (symbol form) ++ List.replicate k pad := by
  induction group generalizing seen at_ with
  | nil =>
    cases h
    exact ⟨[],0,by simp,nofun,rfl,rfl⟩
  | cons b group ih =>
    unfold lastGroup at h
    split at h
    · rename_i hb
      split at h
      · cases h
      · obtain ⟨hv,hp,hg⟩ := lastGroup_padded h
        refine ⟨[],group.length + 1,by simpa using hv,nofun,by simpa using hp,?_⟩
        rw [hb,List.replicate_succ,← hg]
        rfl
    · dsimp only at h
      obtain ⟨n,hn,h⟩ := ok_of_bind h
      obtain ⟨hlt,hsymbol⟩ := valueAt_ok hf hn
      obtain ⟨more,k,hv,hall,hp,hg⟩ := ih h
      refine ⟨n :: more,k,by simpa using hv,List.forall_mem_cons.mpr ⟨hlt,hall⟩,hp,?_⟩
      rw [hg,List.map_cons,hsymbol,List.cons_append]

theorem toNat_ofNat_byte {m : Nat} (h : m < 256) : (UInt8.ofNat m).toNat = m := by
  rw [UInt8.toNat_ofNat',Nat.mod_eq_of_lt h]

theorem sextets_join (ha : a < 64) (hb : b < 64) (hc : c < 64) (hd : d < 64) (bs : Bytes) :
    sextets (join a b c d ++ bs) = a :: b :: c :: d :: sextets bs := by
  rw [join,List.cons_append,List.cons_append,List.cons_append,List.nil_append,sextets,
    toNat_ofNat_byte (by omega),toNat_ofNat_byte (by omega),toNat_ofNat_byte (by omega)]
  have hfirst : (a * 4 + b / 16) / 4 = a := by omega
  have hsecond : (a * 4 + b / 16) % 4 * 16 + (b % 16 * 16 + c / 4) / 16 = b := by omega
  have hthird : (b % 16 * 16 + c / 4) % 16 * 4 + (c % 4 * 64 + d) / 64 = c := by omega
  have hfourth : (c % 4 * 64 + d) % 64 = d := by omega
  rw [hfirst,hsecond,hthird,hfourth]

/-- What a last group is read as has the values of its symbols. -/
theorem lastBytes_ok (hall : ∀ n ∈ values, n < 64) (h : lastBytes offset group values = .ok bs) :
    values = sextets bs ∧ values.length + missing bs = 4 := by
  unfold lastBytes at h
  split at h
  · rename_i a b
    have ha := hall a (by simp)
    have hb := hall b (by simp)
    split at h <;> cases h
    rw [join,List.take_succ_cons,List.take_zero,sextets,toNat_ofNat_byte (by omega)]
    exact ⟨by congr 2 <;> omega,rfl⟩
  · rename_i a b c
    have ha := hall a (by simp)
    have hb := hall b (by simp)
    have hc := hall c (by simp)
    split at h <;> cases h
    rw [join,List.take_succ_cons,List.take_succ_cons,List.take_zero,sextets,
      toNat_ofNat_byte (by omega),toNat_ofNat_byte (by omega)]
    exact ⟨by congr 3 <;> omega,rfl⟩
  · rename_i a b c d
    cases h
    have hjoin := sextets_join (hall a (by simp)) (hall b (by simp)) (hall c (by simp))
      (hall d (by simp)) []
    rw [List.append_nil] at hjoin
    exact ⟨hjoin.symm,by simp [join,missing]⟩
  · cases h

theorem decodeLast_ok (hf : form.Legible) (hg : group.length ≤ 4)
    (h : decodeLast form offset group = .ok bs) :
    ∃ k ≤ missing bs, (k = 0 ∨ form.padding = .optional) ∧ group = written form bs k := by
  unfold decodeLast at h
  obtain ⟨⟨values,padded⟩,hv,h⟩ := ok_of_bind h
  obtain ⟨more,k,rfl,hall,rfl,rfl⟩ := lastGroup_ok hf hv
  dsimp only at h
  split at h
  · cases h
  split at h
  · cases h
  rename_i hpadded
  obtain ⟨hvalues,hfour⟩ := lastBytes_ok hall h
  simp only [List.length_append,List.length_map,List.length_replicate] at hg
  refine ⟨k,by omega,?_,by rw [written,← hvalues]⟩
  cases hp : form.padding with
  | optional => exact Or.inr rfl
  | refused =>
    simp only [hp,decide_true,Bool.and_true,decide_eq_true_eq,Nat.not_lt] at hpadded
    exact Or.inl (Nat.le_zero.mp hpadded)

theorem decodeFrom_ok (hf : form.Legible) (h : decodeFrom form offset text = .ok bs) :
    ∃ k ≤ missing bs, (k = 0 ∨ form.padding = .optional) ∧ text = written form bs k := by
  fun_induction decodeFrom form offset text generalizing bs with
  | case1 offset a b c d e rest ih =>
    obtain ⟨i,hi,h⟩ := ok_of_bind h
    obtain ⟨j,hj,h⟩ := ok_of_bind h
    obtain ⟨m,hm,h⟩ := ok_of_bind h
    obtain ⟨n,hn,h⟩ := ok_of_bind h
    obtain ⟨more,hmore,h⟩ := ok_of_bind h
    cases h
    obtain ⟨k,hk,hp,hrest⟩ := ih hmore
    obtain ⟨hilt,rfl⟩ := valueAt_ok hf hi
    obtain ⟨hjlt,rfl⟩ := valueAt_ok hf hj
    obtain ⟨hmlt,rfl⟩ := valueAt_ok hf hm
    obtain ⟨hnlt,rfl⟩ := valueAt_ok hf hn
    have hmissing : missing (join i j m n ++ more) = missing more := missing_three _ _ _ _
    refine ⟨k,hmissing ▸ hk,hp,?_⟩
    rw [hrest,written,written,sextets_join hilt hjlt hmlt hnlt]
    rfl
  | case2 offset group hg =>
    refine decodeLast_ok hf ?_ h
    rcases group with _ | ⟨a,_ | ⟨b,_ | ⟨c,_ | ⟨d,_ | ⟨e,rest⟩⟩⟩⟩⟩
    · simp
    · simp
    · simp
    · simp
    · simp
    · exact (hg a b c d e rest rfl).elim

/-- A text is read as some bytes exactly if it is one that they can be written as. -/
theorem decode_ok_iff (hr : form.Regular) (hf : form.Legible) : decode form text = .ok bs ↔
    ∃ k ≤ missing bs, (k = 0 ∨ form.padding = .optional) ∧ text = written form bs k := by
  constructor
  · intro h
    unfold decode at h
    split at h
    · rename_i hn
      cases h
      exact ⟨0,Nat.zero_le _,Or.inl rfl,List.getLast?_eq_none_iff.mp hn⟩
    · split at h
      · cases h
      · exact decodeFrom_ok hf h
  · rintro ⟨k,hk,hp,rfl⟩
    exact decode_written hr hk hp

/-- Where there is no padding, bytes have one text. -/
theorem decode_urlSafe_iff : decode urlSafe text = .ok bs ↔ text = encode urlSafe bs := by
  rw [decode_ok_iff urlSafe_regular urlSafe_legible,encode_written,if_neg (nofun)]
  constructor
  · rintro ⟨k,_,rfl | hp,rfl⟩
    · rfl
    · cases hp
  · rintro rfl
    exact ⟨0,Nat.zero_le _,Or.inl rfl,rfl⟩

end

end BuildFarm.Base64
