import BuildFarm.Json.Record
import BuildFarm.Proofs.Json.Printed

namespace BuildFarm.Json.Reader

open Text

variable {st : Style} {fault : Prop} {input mid rest : List Glyph}

/-- The reader fails, and what it leaves is the rest. -/
structure Leaves (r : Reader α) (input rest : List Glyph) : Prop where
  run (place : Place) : ∃ e, r ⟨input,place⟩ = .error e ∧ e.cursor.rest = rest

namespace Leaves

theorem fail (cause : Cause) : Leaves (Reader.fail cause : Reader α) rest rest :=
  ⟨fun _ => ⟨_,rfl,rfl⟩⟩

theorem bind {r : Reader α} {f : α → Reader β} {P : α → Prop} (hr : Reads r False input mid P)
    (hf : ∀ a, P a → Leaves (f a) mid rest) : Leaves (r >>= f) input rest := by
  constructor
  intro place
  obtain ⟨a,after,hc,ha⟩ := hr.total place
  change ∃ e, Reader.bind r f ⟨input,place⟩ = .error e ∧ e.cursor.rest = rest
  rw [Reader.bind,hc]
  exact (hf a ha).run after

theorem attempt {r : Reader α} (h : Leaves r input rest) :
    Reads (Reader.attempt r) fault input rest (· = none) := by
  constructor
  intro place
  obtain ⟨e,he,hrest⟩ := h.run place
  rw [Reader.attempt,he]
  exact ⟨hrest,rfl⟩

end Leaves

theorem Reads.attempt {r : Reader α} {P : α → Prop} (h : Reads r False input rest P) :
    Reads (Reader.attempt r) fault input rest (fun o => ∃ a, o = some a ∧ P a) := by
  constructor
  intro place
  obtain ⟨a,after,hc,ha⟩ := h.total place
  rw [Reader.attempt,hc]
  exact ⟨rfl,a,rfl,ha⟩

/-- What a character is written as is passed in one step. -/
theorem skipTextFrom_step (b : Glyph) (bound : List Glyph) (c : Char) (input : List Glyph)
    (place : Place) : ∃ after, skipTextFrom (b :: bound) ⟨glyphs (escapeChar c) ++ input,place⟩ =
      skipTextFrom bound ⟨input,after⟩ := by
  have hc := escapeChar_escaped c
  generalize escapeChar c = es at hc
  cases hc with
  | mark x unnumbered back =>
    obtain ⟨y,after,he,_⟩ := (back False input).total (place.after (.char '\\'))
    refine ⟨after,?_⟩
    simp only [glyphs_cons,glyphs_nil,List.cons_append,List.nil_append,skipTextFrom]
    rw [if_neg (by decide),if_pos trivial]
    split
    · rename_i hu
      cases hu
      exact absurd rfl unnumbered
    · rw [he]
  | number low =>
    obtain ⟨n,after,hn,_⟩ := (hexEscape_reads (by omega : c.toNat < 0x10000) input).total
      ((place.after (.char '\\')).after (.char 'u'))
    refine ⟨after,?_⟩
    simp only [glyphs_cons,List.cons_append,skipTextFrom]
    rw [if_neg (by decide),if_pos trivial,hn]
  | plain unquoted bare high =>
    refine ⟨place.after (.char c),?_⟩
    simp only [glyphs_cons,List.cons_append,skipTextFrom,if_neg unquoted,if_neg bare,if_neg high]
    rfl

theorem skipTextFrom_reads {cs : List Char} {bound : List Glyph} (hb : cs.length < bound.length)
    (rest : List Glyph) : Reads (skipTextFrom bound) fault
      (glyphs (cs.flatMap escapeChar) ++ .char '"' :: rest) rest (fun _ => True) := by
  induction cs generalizing bound with
  | nil =>
    obtain ⟨b,bound,rfl⟩ := List.exists_cons_of_length_pos hb
    constructor
    intro place
    simp [skipTextFrom]
  | cons c cs ih =>
    obtain ⟨b,bound,rfl⟩ := List.exists_cons_of_length_pos (Nat.zero_lt_of_lt hb)
    constructor
    intro place
    rw [List.flatMap_cons,glyphs_append,List.append_assoc]
    obtain ⟨after,hstep⟩ := skipTextFrom_step b bound c
      (glyphs (cs.flatMap escapeChar) ++ .char '"' :: rest) place
    rw [hstep]
    exact (ih (Nat.lt_of_succ_lt_succ hb)).run after

theorem skipTextRest_reads (s : String) (rest : List Glyph) : Reads skipTextRest fault
    (glyphs (s.toList.flatMap escapeChar) ++ .char '"' :: rest) rest (fun _ => True) := by
  constructor
  intro place
  have h : Reads (skipTextFrom _) fault _ rest _ :=
    skipTextFrom_reads (escaped_bound s.toList rest) rest
  exact h.run place

theorem digits_cons (n : Nat) : ∃ d ds, digits n = d :: ds ∧ isDigit d = true := by
  obtain ⟨d,ds,hds⟩ := List.exists_cons_of_ne_nil (digits_ne_nil n)
  exact ⟨d,ds,hds,isDigit_digits (hds ▸ List.mem_cons_self)⟩

theorem skipNumeral_reads (n : Nat) (hr : Ends rest) :
    Reads skipNumeral fault (glyphs (digits n) ++ rest) rest (fun _ => True) := by
  obtain ⟨hpoint,hmark⟩ := hr.no_mark
  have hnone : rest.head?.bind glyphDigit? = none := by
    cases rest with
    | nil => rfl
    | cons g rest => exact hr.undigit g rfl
  have hd : ∀ c ∈ digits n, isDigit c = true := fun c => isDigit_digits
  have hfront := digits_front n
  obtain ⟨d,ds,hds⟩ := List.exists_cons_of_ne_nil (digits_ne_nil n)
  rw [hds] at hd hfront ⊢
  have hhead : (glyphs (d :: ds) ++ rest).head?.bind glyphDigit? = some d :=
    glyphDigit?_char (hd d List.mem_cons_self)
  unfold skipNumeral
  refine Reads.peek_bind ?_
  dsimp only
  split
  · rename_i hn
    rw [hhead] at hn
    cases hn
  · rename_i hzero
    rw [hhead] at hzero
    cases hzero
    obtain rfl : ds = [] := by
      cases ds with
      | nil => rfl
      | cons c cs => exact absurd rfl (hfront c cs)
    rw [glyphs_cons,glyphs_nil,List.cons_append,List.nil_append]
    refine Reads.skip_bind (Reads.peek_bind ?_)
    rw [hnone,if_neg (by decide)]
    refine Reads.peek_bind ?_
    rw [if_neg hpoint,if_neg hmark]
    exact Reads.pure trivial
  · refine (decimalDigits_reads hd hr.undigit).bind (fun _ _ => Reads.peek_bind ?_)
    rw [if_neg hpoint,if_neg hmark]
    exact Reads.pure trivial

theorem mismatch_leaves {n : Int} (expected : String) (hb : Blank ws) (hr : Ends rest)
    (hn : least ≤ n ∧ n ≤ greatest) :
    Leaves (mismatch expected : Reader α) (ws ++ (glyphs (intLiteral n) ++ rest)) rest := by
  have hread : Reads _ False _ rest _ := numeral_signed hn hr
  unfold mismatch intLiteral
  split
  · rename_i hneg
    rw [decide_eq_false (by omega)] at hread
    refine Leaves.bind (Reads.next_front hb (by decide)) ?_
    rintro _ rfl
    exact Leaves.bind (Reads.skip _) (fun _ _ => Leaves.bind hread (fun _ _ => .fail _))
  · rename_i hpos
    rw [decide_eq_true (by omega)] at hread
    obtain ⟨d,ds,hds,hdigit⟩ := digits_cons n.natAbs
    obtain ⟨h1,h2,h3,h4,h5,h6,h7⟩ := not_digit_front hdigit
    rw [hds] at hread ⊢
    refine Leaves.bind (Reads.next_front hb (digit_front hdigit).1) ?_
    rintro _ rfl
    dsimp only
    split
    any_goals
      rename_i he
      cases he
      contradiction
    · cases ‹some (Glyph.char d) = none›
    · rename_i he
      cases he
      rw [if_pos (by simp [glyphDigit?_char hdigit])]
      exact Leaves.bind hread (fun _ _ => .fail _)

theorem intLiteral_front (n : Int) : ∃ c cs, intLiteral n = c :: cs ∧
    isBlank (.char c) = false ∧ c ≠ '[' ∧ c ≠ '{' := by
  unfold intLiteral
  split
  · exact ⟨_,_,rfl,by decide,by decide,by decide⟩
  · obtain ⟨d,ds,hds,hdigit⟩ := digits_cons n.natAbs
    obtain ⟨_,_,_,_,_,hlist,hobject⟩ := not_digit_front hdigit
    exact ⟨d,ds,hds,(digit_front hdigit).1,hlist,hobject⟩

theorem integer_reads {n : Int} (hb : Blank ws) (hr : Ends rest) (hl : least ≤ n)
    (hg : n < 0x8000000000000000) :
    Reads integer fault (ws ++ (glyphs (intLiteral n) ++ rest)) rest (· = n) := by
  have hread : Reads _ fault _ rest _ := numeral_signed ⟨hl,by unfold greatest; omega⟩ hr
  unfold integer intLiteral
  split
  · rename_i hneg
    rw [decide_eq_false (by omega)] at hread
    refine Reads.next_bind hb (by decide) (Reads.skip_bind (hread.bind ?_))
    rintro _ rfl
    rw [integerOf,if_pos hg]
    exact Reads.pure rfl
  · rename_i hpos
    rw [decide_eq_true (by omega)] at hread
    obtain ⟨d,ds,hds,hdigit⟩ := digits_cons n.natAbs
    rw [hds] at hread ⊢
    refine Reads.next_bind hb (digit_front hdigit).1 ?_
    split
    · rename_i he
      cases he
      exact absurd rfl (not_digit_front hdigit).2.2.2.1
    · rename_i he
      cases he
      rw [if_pos (by simp [glyphDigit?_char hdigit])]
      refine hread.bind ?_
      rintro _ rfl
      rw [integerOf,if_pos hg]
      exact Reads.pure rfl
    · cases ‹some (Glyph.char d) = none›

theorem skipFront_int (n : Int) (hb : Blank ws) (hr : Ends rest) :
    Reads skipFront fault (ws ++ (glyphs (intLiteral n) ++ rest)) rest (· = none) := by
  have hread : Reads skipNumeral fault _ rest _ := skipNumeral_reads n.natAbs hr
  unfold skipFront intLiteral
  split
  · refine Reads.next_bind hb (by decide) (Reads.skip_bind (hread.bind ?_))
    exact fun _ _ => Reads.pure rfl
  · obtain ⟨d,ds,hds,hdigit⟩ := digits_cons n.natAbs
    obtain ⟨h1,h2,h3,h4,h5,h6,h7⟩ := not_digit_front hdigit
    rw [hds] at hread ⊢
    refine Reads.next_bind hb (digit_front hdigit).1 ?_
    split
    any_goals
      rename_i he
      cases he
      contradiction
    · cases ‹some (Glyph.char d) = none›
    · rename_i he
      cases he
      rw [if_pos (by simp [glyphDigit?_char hdigit])]
      exact hread.bind (fun _ _ => Reads.pure rfl)

theorem skipFront_text (s : String) (hb : Blank ws) :
    Reads skipFront fault (ws ++ (glyphs (textLiteral s) ++ rest)) rest (· = none) := by
  have ht : glyphs (textLiteral s) ++ rest =
      .char '"' :: (glyphs (s.toList.flatMap escapeChar) ++ .char '"' :: rest) := by
    simp [textLiteral]
  unfold skipFront
  rw [ht]
  refine Reads.next_bind hb (by decide) (Reads.skip_bind ((skipTextRest_reads s rest).bind ?_))
  exact fun _ _ => Reads.pure rfl

/-- A value that opens no bracket is passed with its front. -/
theorem skipValue_scalar (h : Reads skipFront fault input rest (· = none)) :
    Reads skipValue fault input rest (fun _ => True) := by
  constructor
  intro place
  have h := h.run place
  unfold skipValue
  cases hc : skipFront ⟨input,place⟩ with
  | error e =>
    rw [hc] at h
    exact h
  | ok p =>
    obtain ⟨front,c⟩ := p
    rw [hc] at h
    obtain ⟨rfl,rfl⟩ := h
    exact ⟨rfl,trivial⟩

theorem text_passed (s : String) (level : Nat) :
    Reads skipValue fault (glyphs st.space ++ (glyphs (st.spelled level (.text s)) ++ rest)) rest
      (fun _ => True) :=
  skipValue_scalar (skipFront_text s st.blank_space)

theorem int_passed (n : Int) (level : Nat) (hr : Ends rest) :
    Reads skipValue fault (glyphs st.space ++ (glyphs (st.spelled level (.int n)) ++ rest)) rest
      (fun _ => True) :=
  skipValue_scalar (skipFront_int n st.blank_space hr)

end BuildFarm.Json.Reader
