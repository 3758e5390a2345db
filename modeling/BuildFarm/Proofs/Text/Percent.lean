import BuildFarm.Proofs.Json.Reading
import BuildFarm.Text.Percent

namespace BuildFarm

namespace Bytes

theorem ofText_ofList (cs : List Char) :
    ofText (String.ofList cs) = cs.flatMap String.utf8EncodeChar := by
  simp [ofText,List.utf8Encode]

theorem ofText_cons (c : Char) (cs : List Char) :
    ofText (String.ofList (c :: cs)) = String.utf8EncodeChar c ++ ofText (String.ofList cs) := by
  simp only [ofText_ofList,List.flatMap_cons]

theorem utf8EncodeChar_ascii {c : Char} (h : c.toNat < 128) :
    String.utf8EncodeChar c = [UInt8.ofNat c.toNat] := by
  have hle : c.toNat ≤ 127 := Nat.le_of_lt_succ h
  simp [String.utf8EncodeChar,hle]

theorem ofText_ascii {c : Char} (h : c.toNat < 128) (cs : List Char) :
    ofText (String.ofList (c :: cs)) = UInt8.ofNat c.toNat :: ofText (String.ofList cs) := by
  rw [ofText_cons,utf8EncodeChar_ascii h]
  rfl

theorem ofText_singleton (c : Char) : ofText (String.singleton c) = String.utf8EncodeChar c := by
  rw [String.singleton_eq_ofList,ofText_ofList,List.flatMap_singleton]

theorem ofText_length (s : String) : (ofText s).length = s.utf8ByteSize := by
  rw [← String.size_toByteArray]
  simp [ofText]

/-- What is left of a text has fewer bytes. -/
theorem ofText_sublist {cs ds : List Char} (h : cs.Sublist ds) :
    cs = ds ∨ (ofText (String.ofList cs)).length < (ofText (String.ofList ds)).length := by
  induction h with
  | slnil => exact Or.inl rfl
  | cons d h ih =>
    have hpos := d.utf8Size_pos
    rw [ofText_cons,List.length_append,String.length_utf8EncodeChar]
    rcases ih with rfl | hlt
    · exact Or.inr (by omega)
    · exact Or.inr (by omega)
  | cons_cons d h ih =>
    rw [ofText_cons,ofText_cons,List.length_append,List.length_append]
    exact ih.imp (congrArg (d :: ·)) (Nat.add_lt_add_left · _)

theorem text?_some {bs : Bytes} {s : String} (h : bs.text? = some s) : bs = ofText s := by
  unfold text? String.fromUTF8? at h
  split at h
  · cases h
    rfl
  · cases h

end Bytes

namespace Percent

open Bytes Text

/-- An escape stands somewhere in the text. -/
def HasEscape (cs : List Char) : Prop :=
  ∃ x y, ['%',x,y] <:+: cs ∧ (hexValue? x).isSome ∧ (hexValue? y).isSome

/-- Two digits stand in front. -/
def Digits (cs : List Char) : Prop :=
  ∃ x y rest, cs = x :: y :: rest ∧ (hexValue? x).isSome ∧ (hexValue? y).isSome

theorem hasEscape_cons : HasEscape (c :: cs) ↔ (c = '%' ∧ Digits cs) ∨ HasEscape cs := by
  simp only [HasEscape,Digits,List.infix_cons_iff]
  constructor
  · rintro ⟨x,y,⟨rest,hrest⟩ | hin,hx,hy⟩
    · cases hrest
      exact Or.inl ⟨rfl,x,y,rest,rfl,hx,hy⟩
    · exact Or.inr ⟨x,y,hin,hx,hy⟩
  · rintro (⟨rfl,x,y,rest,rfl,hx,hy⟩ | ⟨x,y,hin,hx,hy⟩)
    · exact ⟨x,y,Or.inl ⟨rest,rfl⟩,hx,hy⟩
    · exact ⟨x,y,Or.inr hin,hx,hy⟩

/-- All characters but some of one byte are escaped, and digits and the percent sign are not. -/
structure Keeps (escaped : Char → Bool) : Prop where
  ascii : ∀ c, escaped c = false → c.toNat < 128
  percent : escaped '%' = false
  digit : ∀ c, (hexValue? c).isSome → escaped c = false

theorem decode_other {b : UInt8} (h : b ≠ percent) (rest : Bytes) :
    decode (b :: rest) = b :: decode rest := by
  rcases rest with _ | ⟨x,_ | ⟨y,rest⟩⟩ <;> simp [decode,h]

theorem decode_digits {x y : UInt8} (hx : hexByte? x = some m) (hy : hexByte? y = some n)
    (rest : Bytes) : decode (percent :: x :: y :: rest) = UInt8.ofNat (m * 16 + n) :: decode rest := by
  simp [decode,hx,hy]

theorem decode_percent {rest : Bytes}
    (h : ∀ x y left, rest = x :: y :: left → (hexByte? x).isSome → (hexByte? y).isSome → False) :
    decode (percent :: rest) = percent :: decode rest := by
  rcases rest with _ | ⟨x,_ | ⟨y,rest⟩⟩
  · rfl
  · rfl
  · rw [decode,if_pos rfl]
    cases hx : hexByte? x with
    | none => rfl
    | some m =>
      cases hy : hexByte? y with
      | none => rfl
      | some n => exact (h x y rest rfl (by simp [hx]) (by simp [hy])).elim

theorem hexByte?_ascii {c : Char} (h : c.toNat < 128) :
    hexByte? (UInt8.ofNat c.toNat) = hexValue? c := by
  have hn : (UInt8.ofNat c.toNat).toNat = c.toNat :=
    UInt8.toNat_ofNat_of_lt' (Nat.lt_trans h (by decide))
  rw [hexByte?,hn,Char.ofNat_toNat]

theorem hexValue?_upperHexDigit {d : Nat} (h : d < 16) :
    (upperHexDigit d).toNat < 128 ∧ hexValue? (upperHexDigit d) = some d := by
  have hall : ∀ d : Fin 16,
      (upperHexDigit d).toNat < 128 ∧ hexValue? (upperHexDigit d) = some d.val := by decide
  exact hall ⟨d,h⟩

theorem decode_escape (b : UInt8) (cs : List Char) :
    decode (ofText (String.ofList (escape b ++ cs))) = b :: decode (ofText (String.ofList cs)) := by
  have hb : b.toNat < 256 := b.toNat_lt
  obtain ⟨hx,hxv⟩ := hexValue?_upperHexDigit (d := b.toNat / 16) (by omega)
  obtain ⟨hy,hyv⟩ := hexValue?_upperHexDigit (d := b.toNat % 16) (by omega)
  have hvalue : UInt8.ofNat (b.toNat / 16 * 16 + b.toNat % 16) = b := by
    rw [Nat.div_add_mod',UInt8.ofNat_toNat]
  simp only [escape,List.cons_append,List.nil_append]
  rw [ofText_ascii (by decide),ofText_ascii hx,ofText_ascii hy]
  have hd := decode_digits ((hexByte?_ascii hx).trans hxv) ((hexByte?_ascii hy).trans hyv)
    (ofText (String.ofList cs))
  rw [hvalue] at hd
  exact hd

theorem decode_escapes (bs : Bytes) (cs : List Char) :
    decode (ofText (String.ofList (bs.flatMap escape ++ cs))) =
      bs ++ decode (ofText (String.ofList cs)) := by
  induction bs with
  | nil => rfl
  | cons b bs ih =>
    rw [List.flatMap_cons,List.append_assoc,decode_escape,ih]
    rfl

variable {escaped : Char → Bool}

theorem encode_cons (c : Char) (cs : List Char) : encode escaped (c :: cs) =
    (if escaped c then (ofText (String.singleton c)).flatMap escape else [c]) ++
      encode escaped cs := rfl

theorem encode_kept (hc : escaped c = false) (cs : List Char) :
    encode escaped (c :: cs) = c :: encode escaped cs := by
  simp [encode_cons,hc]

theorem encode_plain {cs : List Char} (h : ∀ c ∈ cs, escaped c = false) : encode escaped cs = cs := by
  induction cs with
  | nil => rfl
  | cons c cs ih =>
    rw [encode_kept (h c List.mem_cons_self),ih (fun d hd => h d (List.mem_cons_of_mem _ hd))]

/-- A byte becomes three characters at most. -/
theorem encode_length_le (escaped : Char → Bool) (cs : List Char) :
    (encode escaped cs).length ≤ 3 * (ofText (String.ofList cs)).length := by
  induction cs with
  | nil => exact Nat.le_refl _
  | cons c cs ih =>
    have hpos := c.utf8Size_pos
    have hthree (bs : Bytes) : (bs.flatMap escape).length = 3 * bs.length := by
      induction bs with
      | nil => rfl
      | cons b bs ih =>
        simp only [List.flatMap_cons,List.length_append,escape,List.length_cons,List.length_nil,ih]
        omega
    rw [encode_cons,List.length_append,ofText_cons,List.length_append,String.length_utf8EncodeChar]
    split
    · rw [hthree,ofText_singleton,String.length_utf8EncodeChar]
      omega
    · simp only [List.length_singleton]
      omega

/-- What is escaped does not begin with a digit. -/
theorem digit_encode (h : Keeps escaped) {cs : List Char} {b : UInt8} {left : Bytes}
    (hcs : ofText (String.ofList (encode escaped cs)) = b :: left) (hb : (hexByte? b).isSome) :
    ∃ c rest, cs = c :: rest ∧ (hexValue? c).isSome ∧
      left = ofText (String.ofList (encode escaped rest)) := by
  cases cs with
  | nil => cases hcs
  | cons c cs =>
    cases he : escaped c with
    | true =>
      rw [encode_cons,if_pos he,ofText_singleton] at hcs
      obtain ⟨a,as,ha⟩ := List.exists_cons_of_ne_nil (String.utf8EncodeChar_ne_nil (c := c))
      simp only [ha,List.flatMap_cons,escape,List.cons_append] at hcs
      rw [ofText_ascii (by decide)] at hcs
      obtain ⟨rfl,_⟩ := List.cons.inj hcs
      cases hb
    | false =>
      have ha := h.ascii c he
      rw [encode_kept he,ofText_ascii ha] at hcs
      obtain ⟨rfl,rfl⟩ := List.cons.inj hcs
      rw [hexByte?_ascii ha] at hb
      exact ⟨c,cs,rfl,hb,rfl⟩

theorem decode_encode_cons (h : Keeps escaped) (hc : ¬(c = '%' ∧ Digits cs)) :
    decode (ofText (String.ofList (encode escaped (c :: cs)))) =
      String.utf8EncodeChar c ++ decode (ofText (String.ofList (encode escaped cs))) := by
  cases he : escaped c with
  | true => rw [encode_cons,if_pos he,decode_escapes,ofText_singleton]
  | false =>
    have ha := h.ascii c he
    rw [encode_kept he,ofText_ascii ha,utf8EncodeChar_ascii ha]
    by_cases hp : c = '%'
    · subst hp
      refine decode_percent ?_
      intro x y left hleft hx hy
      obtain ⟨a,rest,rfl,hav,hl⟩ := digit_encode h hleft hx
      obtain ⟨b,rest,rfl,hbv,_⟩ := digit_encode h hl.symm hy
      exact hc ⟨rfl,a,b,rest,rfl,hav,hbv⟩
    · refine decode_other ?_ _
      intro hb
      have hn : c.toNat = 37 := by
        have ht := congrArg UInt8.toNat hb
        rwa [UInt8.toNat_ofNat_of_lt' (Nat.lt_trans ha (by decide))] at ht
      exact hp (Char.ext (UInt32.toNat_inj.mp hn))

theorem decode_encode_digits (h : Keeps escaped) (hd : Digits cs) :
    ∃ b rest, rest.length + 2 = cs.length ∧
      (ofText (String.ofList rest)).length + 2 = (ofText (String.ofList cs)).length ∧
      decode (ofText (String.ofList (encode escaped ('%' :: cs)))) =
        b :: decode (ofText (String.ofList (encode escaped rest))) := by
  obtain ⟨x,y,rest,rfl,hx,hy⟩ := hd
  have hxk := h.digit x hx
  have hyk := h.digit y hy
  have hxa := h.ascii x hxk
  have hya := h.ascii y hyk
  obtain ⟨m,hm⟩ := Option.isSome_iff_exists.mp hx
  obtain ⟨n,hn⟩ := Option.isSome_iff_exists.mp hy
  rw [← hexByte?_ascii hxa] at hm
  rw [← hexByte?_ascii hya] at hn
  refine ⟨UInt8.ofNat (m * 16 + n),rest,rfl,by rw [ofText_ascii hxa,ofText_ascii hya]; rfl,?_⟩
  rw [encode_kept h.percent,encode_kept hxk,encode_kept hyk,ofText_ascii (by decide),
    ofText_ascii hxa,ofText_ascii hya]
  exact decode_digits hm hn _

/-- A text in which no escape stands is found again. -/
theorem decode_encode (h : Keeps escaped) {cs : List Char} (hcs : ¬HasEscape cs) :
    decode (ofText (String.ofList (encode escaped cs))) = ofText (String.ofList cs) := by
  induction cs with
  | nil => rfl
  | cons c cs ih =>
    rw [hasEscape_cons,not_or] at hcs
    rw [decode_encode_cons h hcs.1,ih hcs.2,ofText_cons]

theorem decode_encode_le (h : Keeps escaped) (cs : List Char) :
    (decode (ofText (String.ofList (encode escaped cs)))).length ≤
      (ofText (String.ofList cs)).length := by
  match cs with
  | [] => exact Nat.le_refl _
  | c :: cs =>
    by_cases hd : c = '%' ∧ Digits cs
    · obtain ⟨rfl,hd⟩ := hd
      obtain ⟨b,rest,hlt,hbytes,hb⟩ := decode_encode_digits h hd
      have hrest := decode_encode_le h rest
      rw [hb,ofText_ascii (by decide),List.length_cons,List.length_cons]
      omega
    · have hrest := decode_encode_le h cs
      rw [decode_encode_cons h hd,ofText_cons,List.length_append,List.length_append]
      omega
termination_by cs.length
decreasing_by
  · simp only [List.length_cons]
    omega
  · simp

/-- An escape that stood in the text makes it shorter. -/
theorem decode_encode_lt (h : Keeps escaped) {cs : List Char} (hcs : HasEscape cs) :
    (decode (ofText (String.ofList (encode escaped cs)))).length <
      (ofText (String.ofList cs)).length := by
  induction cs with
  | nil =>
    obtain ⟨x,y,hin,_⟩ := hcs
    cases List.eq_nil_of_infix_nil hin
  | cons c cs ih =>
    by_cases hd : c = '%' ∧ Digits cs
    · obtain ⟨rfl,hd⟩ := hd
      obtain ⟨b,rest,_,hbytes,hb⟩ := decode_encode_digits h hd
      have hrest := decode_encode_le h rest
      rw [hb,ofText_ascii (by decide),List.length_cons,List.length_cons]
      omega
    · have hrest := ih ((hasEscape_cons.mp hcs).resolve_left hd)
      rw [decode_encode_cons h hd,ofText_cons,List.length_append,List.length_append]
      omega

end Percent

end BuildFarm
