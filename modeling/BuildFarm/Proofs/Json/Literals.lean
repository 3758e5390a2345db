import BuildFarm.Proofs.Json.Reading
import BuildFarm.Proofs.Text.Hex

namespace BuildFarm.Json.Reader

open Text

theorem hexDigit_width {d : Nat} (h : d < 16) : (hexDigit d).utf8Size = 1 := by
  have hall : ∀ d : Fin 16, (hexDigit d).utf8Size = 1 := by decide
  exact hall ⟨d,h⟩

theorem hexFrom_reads {ds : List Char} (hd : ∀ c ∈ ds, ∃ d < 16, c = hexDigit d) (m : Nat)
    (place : Place) (rest : List Glyph) :
    ∃ n place', hexFrom ds.length (some m) place (glyphs ds ++ rest) = .ok (n,⟨rest,place'⟩) ∧
      ds.foldl (fun m c => do return (← m) * 16 + (← hexValue? c)) (some m) = some n := by
  induction ds generalizing m place with
  | nil => cases rest <;> exact ⟨m,place,rfl,rfl⟩
  | cons c ds ih =>
    obtain ⟨d,hlt,rfl⟩ := hd c List.mem_cons_self
    obtain ⟨n,place',hn,hf⟩ := ih (fun c hc => hd c (List.mem_cons_of_mem _ hc)) (m * 16 + d)
      (place.after (.char (hexDigit d)))
    refine ⟨n,place',?_,by simpa [hexValue?_hexDigit hlt] using hf⟩
    have hw : (Glyph.char (hexDigit d)).width = 1 := hexDigit_width hlt
    simp only [List.length_cons,glyphs_cons,List.cons_append,hexFrom,hw,Glyph.char?,
      Option.bind_some,hexValue?_hexDigit hlt]
    rw [if_neg (by omega)]
    exact hn

theorem hexEscape_reads {n : Nat} (h : n < 0x10000) (rest : List Glyph) :
    Reads hexEscape fault (glyphs (hexDigits 4 n) ++ rest) rest (· = n) := by
  constructor
  intro place
  have hd : ∀ c ∈ hexDigits 4 n, ∃ d < 16, c = hexDigit d := fun c hc => mem_hexDigits hc
  obtain ⟨m,place',hm,hf⟩ := hexFrom_reads hd 0 place rest
  have hn : n % 16 ^ 4 = n := Nat.mod_eq_of_lt h
  rw [hexDigits_length] at hm
  rw [hexDigits_value,hn,Nat.zero_mul,Nat.zero_add] at hf
  simp only [hexEscape,hm,true_and]
  exact (Option.some.inj hf).symm

theorem codePoint_reads {c : Char} (h : c.toNat < 32) (rest : List Glyph) :
    Reads codePoint fault (glyphs (hexDigits 4 c.toNat) ++ rest) rest (· = c) := by
  unfold codePoint
  refine (hexEscape_reads (by omega) rest).bind ?_
  rintro _ rfl
  rw [if_neg (by omega),if_pos (by omega)]
  exact Reads.pure (Char.ofNat_toNat c)

/-- How a character is written: as a mark behind a backslash, as its number, or as itself. -/
inductive Escaped (c : Char) : List Char → Prop
  | mark (x : Char) (unnumbered : x ≠ 'u')
      (back : ∀ (fault : Prop) rest, Reads escape fault (.char x :: rest) rest (· = c)) :
      Escaped c ['\\',x]
  | number (low : c.toNat < 32) : Escaped c ('\\' :: 'u' :: hexDigits 4 c.toNat)
  | plain (unquoted : c ≠ '"') (bare : c ≠ '\\') (high : ¬c.toNat < 32) : Escaped c [c]

theorem escapeChar_escaped (c : Char) : Escaped c (escapeChar c) := by
  have of_nat {n : Nat} (h : c.toNat = n) : Char.ofNat n = c := h ▸ Char.ofNat_toNat c
  unfold escapeChar
  -- The five that have marks of their own, and the two that are known by their numbers.
  iterate 5
    split
    · rename_i h
      subst h
      exact .mark _ (by decide) (fun _ _ => Reads.peek_bind (Reads.skip_bind (Reads.pure rfl)))
  iterate 2
    split
    · rename_i h
      exact .mark _ (by decide)
        (fun _ _ => Reads.peek_bind (Reads.skip_bind (Reads.pure (of_nat h))))
  split
  · rename_i h
    exact .number h
  · rename_i hq hb _ _ _ _ _ hc
    exact .plain hq hb hc

/-- A character is written as an escape that gives it back, or as itself. -/
theorem escapeChar_cases (c : Char) :
    (∃ es, escapeChar c = '\\' :: es ∧
      ∀ (fault : Prop) rest, Reads escape fault (glyphs es ++ rest) rest (· = c)) ∨
    (escapeChar c = [c] ∧ c ≠ '"' ∧ c ≠ '\\' ∧ ¬c.toNat < 32) := by
  have h := escapeChar_escaped c
  generalize escapeChar c = es at h
  cases h with
  | mark x unnumbered back => exact Or.inl ⟨_,rfl,back⟩
  | number low =>
    refine Or.inl ⟨_,rfl,fun fault rest => ?_⟩
    exact Reads.peek_bind (Reads.skip_bind (codePoint_reads low rest))
  | plain unquoted bare high => exact Or.inr ⟨rfl,unquoted,bare,high⟩

theorem textFrom_reads {cs : List Char} {bound : List Glyph} (hb : cs.length < bound.length)
    (read : List Char) (rest : List Glyph) :
    Reads (textFrom bound read none) fault (glyphs (cs.flatMap escapeChar) ++ .char '"' :: rest)
      rest (· = String.ofList (read.reverse ++ cs)) := by
  induction cs generalizing bound read with
  | nil =>
    obtain ⟨b,bound,rfl⟩ := List.exists_cons_of_length_pos hb
    constructor
    intro place
    simp [textFrom]
  | cons c cs ih =>
    obtain ⟨b,bound,rfl⟩ := List.exists_cons_of_length_pos (Nat.zero_lt_of_lt hb)
    have hb : cs.length < bound.length := Nat.lt_of_succ_lt_succ hb
    have ih := ih hb (c :: read)
    rw [List.reverse_cons,List.append_assoc,List.singleton_append] at ih
    constructor
    intro place
    rcases escapeChar_cases c with ⟨es,hes,hread⟩ | ⟨hes,hq,hs,hc⟩
    · obtain ⟨x,after,he,rfl⟩ := (hread False
        (glyphs (cs.flatMap escapeChar) ++ .char '"' :: rest)).total (place.after (.char '\\'))
      simp only [List.flatMap_cons,hes,glyphs_append,glyphs_cons,List.cons_append,
        List.append_assoc,textFrom]
      rw [if_neg (by decide),if_pos trivial,he]
      exact ih.run after
    · have hi := ih.run (place.after (.char c))
      simp only [List.flatMap_cons,hes,glyphs_cons,List.cons_append,List.nil_append,textFrom,
        if_neg hq,if_neg hs,if_neg hc]
      exact hi

theorem escaped_length (cs : List Char) : cs.length ≤ (cs.flatMap escapeChar).length := by
  induction cs with
  | nil => exact Nat.le_refl 0
  | cons c cs ih =>
    have hc : 1 ≤ (escapeChar c).length := by
      rcases escapeChar_cases c with ⟨es,hes,_⟩ | ⟨hes,_⟩ <;> simp [hes]
    simp only [List.flatMap_cons,List.length_append,List.length_cons]
    omega

/-- There are glyphs enough for the bound of a reader that takes one character at a time. -/
theorem escaped_bound (cs : List Char) (rest : List Glyph) :
    cs.length < (glyphs (cs.flatMap escapeChar) ++ .char '"' :: rest).length := by
  have h := escaped_length cs
  simp only [List.length_append,glyphs_length,List.length_cons]
  omega

/-- A text literal, from behind its opening quote, is read as the text. -/
theorem textRest_reads (s : String) (rest : List Glyph) :
    Reads textRest fault (glyphs (s.toList.flatMap escapeChar) ++ .char '"' :: rest) rest
      (· = s) := by
  constructor
  intro place
  have h : Reads (textFrom _ [] none) fault _ rest _ :=
    textFrom_reads (escaped_bound s.toList rest) [] rest
  simpa [textRest] using h.run place

end BuildFarm.Json.Reader
