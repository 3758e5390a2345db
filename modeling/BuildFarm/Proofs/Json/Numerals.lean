import BuildFarm.Proofs.Json.Reading
import BuildFarm.Proofs.Number.Shortest

namespace BuildFarm.Json.Reader

open Text

/-- What follows a number, if anything does, belongs to it neither as a digit nor as the mark of
another part. -/
def Ends (rest : List Glyph) : Prop :=
  ∀ g, rest.head? = some g →
    glyphDigit? g = none ∧ g ≠ .char '.' ∧ isExponentMark (some g) = false

theorem ends_cons {g : Glyph} (hd : glyphDigit? g = none) (hp : g ≠ .char '.')
    (he : isExponentMark (some g) = false) : Ends (g :: rest) := by
  intro h hh
  cases hh
  exact ⟨hd,hp,he⟩

theorem glyphDigit?_char {c : Char} (h : isDigit c = true) : glyphDigit? (.char c) = some c := by
  simp [glyphDigit?,h]

/-- No digit stands at the front. -/
def Undigit (rest : List Glyph) : Prop :=
  ∀ g, rest.head? = some g → glyphDigit? g = none

theorem Ends.undigit {rest : List Glyph} (h : Ends rest) : Undigit rest :=
  fun g hg => (h g hg).1

theorem Ends.no_mark (hr : Ends rest) :
    rest.head? ≠ some (.char '.') ∧ ¬isExponentMark rest.head? = true := by
  cases rest with
  | nil => exact ⟨nofun,by decide⟩
  | cons g rest =>
    obtain ⟨_,hp,he⟩ := hr g rfl
    exact ⟨fun h => hp (Option.some.inj h),by simp [he]⟩

theorem spanDigits_reads {ds : List Char} (hd : ∀ c ∈ ds, isDigit c = true) (hr : Undigit rest)
    (acc : List Char) (place : Place) :
    (spanDigits acc place (glyphs ds ++ rest)).1 = acc.reverse ++ ds ∧
      (spanDigits acc place (glyphs ds ++ rest)).2.rest = rest := by
  induction ds generalizing acc place with
  | nil =>
    cases rest with
    | nil => simp [spanDigits]
    | cons g rest => simp [spanDigits,hr g rfl]
  | cons c ds ih =>
    have hi := ih (fun c hc => hd c (List.mem_cons_of_mem _ hc)) (c :: acc) (place.after (.char c))
    simp only [glyphs_cons,List.cons_append,spanDigits,glyphDigit?_char (hd c List.mem_cons_self)]
    simpa using hi

theorem decimalDigits_reads {ds : List Char} (hd : ∀ c ∈ ds, isDigit c = true)
    (hr : Undigit rest) : Reads decimalDigits fault (glyphs ds ++ rest) rest (· = ds) := by
  constructor
  intro place
  obtain ⟨hv,hc⟩ := spanDigits_reads hd hr [] place
  exact ⟨hc,hv⟩

/-- Digits that have room are taken on, all of them. -/
theorem absorb_all (cs : List Char) {ds : List Char} (h : ofDigits (cs ++ ds) < 0x10000000000000000) :
    absorb (ofDigits cs) ds = (ofDigits (cs ++ ds),[]) := by
  induction ds generalizing cs with
  | nil => rw [List.append_nil,absorb]
  | cons d ds ih =>
    have hle := ofDigits_le_append (cs ++ [d]) ds
    rw [List.append_cons] at h ⊢
    have hi := ih _ h
    rw [ofDigits_snoc] at hi hle
    rw [absorb,if_pos (by omega),hi]

theorem exponentRoom_all (cs : List Char) {ds : List Char} (h : ofDigits (cs ++ ds) < 0x80000000) :
    exponentRoom (ofDigits cs) ds = (ofDigits (cs ++ ds),[]) := by
  induction ds generalizing cs with
  | nil => rw [List.append_nil,exponentRoom]
  | cons d ds ih =>
    have hle := ofDigits_le_append (cs ++ [d]) ds
    rw [List.append_cons] at h ⊢
    have hi := ih _ h
    rw [ofDigits_snoc] at hi hle
    rw [exponentRoom,if_pos (by omega),hi]

/-- Where no digit is left none was dropped. -/
theorem exponentRoom_rest (cs : List Char) {ds : List Char} (h : exponentRoom (ofDigits cs) ds = (e,[])) :
    e = ofDigits (cs ++ ds) := by
  induction ds generalizing cs with
  | nil =>
    cases h
    rw [List.append_nil]
  | cons d ds ih =>
    rw [exponentRoom] at h
    split at h
    · rw [← ofDigits_snoc] at h
      rw [List.append_cons]
      exact ih _ h
    · cases h

theorem scaled_reads (positive : Bool) {n : Nat} {k : Int}
    (h : ¬fault → (Binary64.ofDecimal? n k).isSome = true) :
    Reads (scaled positive n k) fault rest rest (fun _ => True) := by
  constructor
  intro place
  unfold scaled
  cases hx : Binary64.ofDecimal? n k with
  | none =>
    rw [hx] at h
    exact Classical.byContradiction (fun hf => Bool.noConfusion (h hf))
  | some x => exact ⟨rfl,trivial⟩

/-- The parts of a number after its whole part, as they are written: a point with digits behind
it, or none; and the mark, sign and digits of an exponent, or none. -/
structure Parts (fs es : List Char) : Prop where
  fraction : fs = [] ∨ ∃ d ds, fs = '.' :: d :: ds ∧ ∀ c ∈ d :: ds, isDigit c = true
  exponent : es = [] ∨ ∃ sign d ds, es = 'e' :: sign :: d :: ds ∧
    (sign = '+' ∨ sign = '-') ∧ ∀ c ∈ d :: ds, isDigit c = true

/-- What an exponent with its mark and sign says. -/
def exponentOf : List Char → Int
  | _ :: sign :: ds => if sign = '-' then -(ofDigits ds : Int) else ofDigits ds
  | _ => 0

theorem exponentOf_nil : exponentOf [] = 0 := rfl

/-- A number whose parts can be read together. -/
structure Written (ds fs es : List Char) : Prop where
  front : ∀ c cs, ds ≠ '0' :: c :: cs
  significand : ofDigits (ds ++ fs.tail) < 0x10000000000000000
  exponent : es.tail.head? = some '-' ∨ ofDigits (es.drop 2) < 0x80000000
  read : (Binary64.ofDecimal? (ofDigits (ds ++ fs.tail))
    (exponentOf es - fs.tail.length)).isSome = true

/-- An exponent, from its sign on. -/
theorem exponentPart_reads {sign d : Char} {ds : List Char} (hs : sign = '+' ∨ sign = '-')
    (hd : ∀ c ∈ d :: ds, isDigit c = true) (hr : Undigit rest) (positive : Bool) {n : Nat}
    {k : Int} (hroom : ¬fault → sign = '-' ∨ ofDigits (d :: ds) < 0x80000000)
    (hread : ¬fault → (Binary64.ofDecimal? n
      (exponentOf ('e' :: sign :: d :: ds) + k)).isSome = true) :
    Reads (exponentPart positive n k) fault (.char sign :: (glyphs (d :: ds) ++ rest)) rest
      (fun _ => True) := by
  unfold exponentPart
  refine Reads.peek_bind ?_
  have hhead : (Glyph.char sign :: (glyphs (d :: ds) ++ rest)).head? = some (.char sign) := rfl
  have hsign : some (Glyph.char sign) = some (.char '+') ∨
      some (Glyph.char sign) = some (.char '-') := by
    rcases hs with rfl | rfl <;> simp
  rw [hhead,if_pos hsign]
  refine Reads.skip_bind (Reads.peek_bind ?_)
  have hfront : (glyphs (d :: ds) ++ rest).head? = some (.char d) := rfl
  simp only [hfront,glyphDigit?_char (hd d List.mem_cons_self)]
  refine (decimalDigits_reads hd hr).bind ?_
  rintro _ rfl
  split
  · rename_i e he
    have hv : e = ofDigits (d :: ds) := exponentRoom_rest [] he
    have hk : (if some (Glyph.char sign) = some (.char '-') then k - (e : Int) else k + e) =
        exponentOf ('e' :: sign :: d :: ds) + k := by
      rcases hs with rfl | rfl
      · simp [exponentOf,hv,Int.add_comm]
      · simp [exponentOf,hv,Int.sub_eq_add_neg,Int.add_comm]
    rw [hk]
    exact scaled_reads positive hread
  · rename_i unread he
    split
    · rename_i hc
      have hf : fault := by
        refine Classical.byContradiction (fun hf => ?_)
        rcases hroom hf with hsign | hlt
        · exact hc.2 (congrArg (fun c => some (Glyph.char c)) hsign)
        · have hall : exponentRoom 0 (d :: ds) = (ofDigits (d :: ds),[]) :=
            exponentRoom_all [] hlt
          rw [he] at hall
          cases hall
      exact ⟨fun place => hf⟩
    · exact Reads.pure trivial

theorem Parts.undigit (h : Parts fs es) (hr : Ends rest) : Undigit (glyphs es ++ rest) := by
  rcases h.exponent with rfl | ⟨sign,d,ds,rfl,_,_⟩
  · exact hr.undigit
  · intro g hg
    cases hg
    decide

theorem Parts.undigit_fraction (h : Parts fs es) (hr : Ends rest) :
    Undigit (glyphs fs ++ (glyphs es ++ rest)) := by
  rcases h.fraction with rfl | ⟨d,ds,rfl,_⟩
  · exact h.undigit hr
  · intro g hg
    cases hg
    decide

/-- Behind a whole part comes its exponent, or the end. -/
theorem fractionPart_bare (ds : List Char) (h : Parts [] es) (hr : Ends rest) (positive : Bool)
    {n dropped : Nat} (hw : ¬fault → Written ds [] es ∧ n = ofDigits ds ∧ dropped = 0) :
    Reads (fractionPart positive n dropped) fault (glyphs es ++ rest) rest (fun _ => True) := by
  unfold fractionPart
  refine Reads.peek_bind ?_
  obtain ⟨hpoint,hmark⟩ := hr.no_mark
  rcases h.exponent with rfl | ⟨sign,e,es,rfl,hs,he⟩
  · have hi : glyphs [] ++ rest = rest := rfl
    rw [hi,if_neg hpoint,if_neg hmark]
    split
    · rename_i hc
      exact scaled_reads positive (fun hf => absurd (hw hf).2.2 hc)
    · split
      · exact Reads.pure trivial
      · split
        · refine scaled_reads false (fun hf => ?_)
          obtain ⟨hwritten,rfl,_⟩ := hw hf
          have h := hwritten.read
          simpa [exponentOf] using h
        · exact Reads.pure trivial
  · have hi : glyphs ('e' :: sign :: e :: es) ++ rest =
        .char 'e' :: .char sign :: (glyphs (e :: es) ++ rest) := rfl
    rw [hi,if_neg (by simp),if_pos (by simp [isExponentMark])]
    refine Reads.skip_bind (exponentPart_reads hs he hr.undigit positive ?_ ?_)
    · intro hf
      simpa using (hw hf).1.exponent
    · intro hf
      obtain ⟨hwritten,rfl,rfl⟩ := hw hf
      simpa using hwritten.read

theorem fractionPart_point (ds : List Char) {d : Char} {fs : List Char}
    (h : Parts ('.' :: d :: fs) es) (hd : ∀ c ∈ d :: fs, isDigit c = true) (hr : Ends rest)
    (positive : Bool) {n dropped : Nat}
    (hw : ¬fault → Written ds ('.' :: d :: fs) es ∧ n = ofDigits ds ∧ dropped = 0) :
    Reads (fractionPart positive n dropped) fault
      (glyphs ('.' :: d :: fs) ++ (glyphs es ++ rest)) rest (fun _ => True) := by
  unfold fractionPart
  refine Reads.peek_bind ?_
  have hi : glyphs ('.' :: d :: fs) ++ (glyphs es ++ rest) =
      .char '.' :: (glyphs (d :: fs) ++ (glyphs es ++ rest)) := rfl
  rw [hi,if_pos (by simp)]
  refine Reads.skip_bind ((decimalDigits_reads hd (h.undigit hr)).bind ?_)
  rintro _ rfl
  have ha (hf : ¬fault) : absorb n (d :: fs) = (ofDigits (ds ++ d :: fs),[]) := by
    obtain ⟨hwritten,rfl,_⟩ := hw hf
    exact absorb_all _ hwritten.significand
  generalize absorb n (d :: fs) = p at ha
  obtain ⟨m,unread⟩ := p
  refine Reads.peek_bind ?_
  rcases h.exponent with rfl | ⟨sign,e,es,rfl,hs,he⟩
  · have hj : glyphs [] ++ rest = rest := rfl
    rw [hj,if_neg hr.no_mark.2]
    refine scaled_reads positive (fun hf => ?_)
    cases ha hf
    obtain ⟨hwritten,_,rfl⟩ := hw hf
    simpa [exponentOf] using hwritten.read
  · have hj : glyphs ('e' :: sign :: e :: es) ++ rest =
        .char 'e' :: .char sign :: (glyphs (e :: es) ++ rest) := rfl
    rw [hj,if_pos (by simp [isExponentMark])]
    refine Reads.skip_bind (exponentPart_reads hs he hr.undigit positive ?_ ?_)
    · intro hf
      simpa using (hw hf).1.exponent
    · intro hf
      cases ha hf
      obtain ⟨hwritten,_,rfl⟩ := hw hf
      simpa [Int.sub_eq_add_neg] using hwritten.read

theorem fractionPart_reads (ds : List Char) (h : Parts fs es) (hr : Ends rest) (positive : Bool)
    {n dropped : Nat} (hw : ¬fault → Written ds fs es ∧ n = ofDigits ds ∧ dropped = 0) :
    Reads (fractionPart positive n dropped) fault (glyphs fs ++ (glyphs es ++ rest)) rest
      (fun _ => True) := by
  rcases h.fraction with rfl | ⟨d,fs,rfl,hd⟩
  · exact fractionPart_bare ds h hr positive hw
  · exact fractionPart_point ds h hd hr positive hw

/-- The whole part of a number is taken on as far as there is room. -/
theorem numeral_reads {ds : List Char} {tail : List Glyph} {P : Numeral → Prop} {positive : Bool}
    (hn : ds ≠ []) (hd : ∀ c ∈ ds, isDigit c = true) (hu : Undigit tail)
    (hfront : ¬fault → ∀ c cs, ds ≠ '0' :: c :: cs)
    (h : Reads (fractionPart positive (absorb 0 ds).1 (absorb 0 ds).2.length) fault tail rest P) :
    Reads (numeral positive) fault (glyphs ds ++ tail) rest P := by
  obtain ⟨d,ds,rfl⟩ := List.exists_cons_of_ne_nil hn
  unfold numeral
  refine Reads.peek_bind ?_
  have hhead : (glyphs (d :: ds) ++ tail).head? = some (.char d) := rfl
  simp only [hhead,glyphDigit?_char (hd d List.mem_cons_self)]
  split
  · cases ‹some d = none›
  · rename_i he
    cases he
    refine Reads.skip_bind (Reads.peek_bind ?_)
    split
    · rename_i hsome
      refine Reads.failAhead (Classical.byContradiction (fun hf => ?_)) _
      cases ds with
      | nil =>
        cases tail with
        | nil => cases hsome
        | cons g tail => simp [hu g rfl] at hsome
      | cons c cs => exact hfront hf c cs rfl
    · rename_i hnone
      cases ds with
      | nil => exact h
      | cons c cs =>
        have hc := glyphDigit?_char (hd c (by simp))
        simp [hc] at hnone
  · refine (decimalDigits_reads hd hu).bind ?_
    rintro _ rfl
    exact h

/-- A number that is written with a whole part is taken up to its end. -/
theorem numeral_taken {ds : List Char} (hn : ds ≠ []) (hd : ∀ c ∈ ds, isDigit c = true)
    (h : Parts fs es) (hr : Ends rest) (positive : Bool) (hw : ¬fault → Written ds fs es) :
    Reads (numeral positive) fault (glyphs ds ++ (glyphs fs ++ (glyphs es ++ rest))) rest
      (fun _ => True) := by
  refine numeral_reads hn hd (h.undigit_fraction hr) (fun hf => (hw hf).front) ?_
  refine fractionPart_reads ds h hr positive (fun hf => ?_)
  have hw := hw hf
  have ha : absorb 0 ds = (ofDigits ds,[]) :=
    absorb_all [] ((ofDigits_le_append ds fs.tail).trans_lt hw.significand)
  rw [ha]
  exact ⟨hw,rfl,rfl⟩

/-- The numbers that have room, behind a sign or without one. -/
def Fits (positive : Bool) (n : Nat) : Prop :=
  if positive then n < 0x10000000000000000 else 0 < n ∧ n ≤ 0x8000000000000000

theorem fractionPart_whole {n : Nat} (h : Fits positive n) (hr : Ends rest) :
    Reads (fractionPart positive n 0) fault rest rest
      (· = .int (if positive then n else -n)) := by
  obtain ⟨hpoint,hmark⟩ := hr.no_mark
  unfold fractionPart
  refine Reads.peek_bind ?_
  rw [if_neg hpoint,if_neg hmark,if_neg (by simp)]
  cases positive with
  | true => exact Reads.pure rfl
  | false =>
    simp only [Fits,Bool.false_eq_true,↓reduceIte] at h
    rw [if_neg (by simp),if_neg (by omega)]
    exact Reads.pure rfl

theorem numeral_whole {n : Nat} (h : Fits positive n) (hr : Ends rest) :
    Reads (numeral positive) fault (glyphs (digits n) ++ rest) rest
      (· = .int (if positive then n else -n)) := by
  have hlt : ofDigits ([] ++ digits n) < 0x10000000000000000 := by
    rw [List.nil_append,ofDigits_digits]
    cases positive <;> simp only [Fits,Bool.false_eq_true,↓reduceIte] at h <;> omega
  have ha : absorb 0 (digits n) = (n,[]) := by
    have ha : absorb 0 (digits n) = (ofDigits ([] ++ digits n),[]) := absorb_all [] hlt
    rwa [List.nil_append,ofDigits_digits] at ha
  refine numeral_reads (digits_ne_nil n) (fun c => isDigit_digits) hr.undigit
    (fun _ => digits_front n) ?_
  rw [ha]
  exact fractionPart_whole h hr

/-- The digits of a whole number, from behind its sign if it has one. -/
theorem numeral_signed {n : Int} (hn : least ≤ n ∧ n ≤ greatest) (hr : Ends rest) :
    Reads (numeral (decide (0 ≤ n))) fault (glyphs (digits n.natAbs) ++ rest) rest
      (· = .int n) := by
  have hf : Fits (decide (0 ≤ n)) n.natAbs := by
    unfold Fits least greatest at *
    by_cases h : 0 ≤ n
    · rw [decide_eq_true h,if_pos rfl]
      omega
    · rw [decide_eq_false h,if_neg Bool.false_ne_true]
      omega
  refine (numeral_whole hf hr).value ?_
  rintro _ rfl
  by_cases h : 0 ≤ n
  · rw [decide_eq_true h,if_pos rfl]
    exact congrArg Numeral.int (by omega)
  · rw [decide_eq_false h,if_neg Bool.false_ne_true]
    exact congrArg Numeral.int (by omega)

theorem exponentText_parts (e : Int) : ∃ sign c cs, Binary64.exponentText e = sign :: c :: cs ∧
    (sign = '+' ∨ sign = '-') ∧ (∀ d ∈ c :: cs, isDigit d = true) ∧
    exponentOf ('e' :: Binary64.exponentText e) = e ∧
    (e < 0x80000000 → sign = '-' ∨ ofDigits (c :: cs) < 0x80000000) := by
  obtain ⟨c,cs,hc⟩ := List.exists_cons_of_ne_nil (digits_ne_nil e.natAbs)
  have hv : ofDigits (c :: cs) = e.natAbs := by rw [← hc,ofDigits_digits]
  have hd : ∀ d ∈ c :: cs, isDigit d = true := fun d hd => isDigit_digits (hc ▸ hd)
  unfold Binary64.exponentText
  rw [hc]
  split
  · rename_i he
    refine ⟨'-',c,cs,rfl,Or.inr rfl,hd,?_,fun _ => Or.inl rfl⟩
    simp only [exponentOf,↓reduceIte,hv]
    omega
  · rename_i he
    refine ⟨'+',c,cs,rfl,Or.inl rfl,hd,?_,fun h => Or.inr ?_⟩
    · simp only [exponentOf,Char.reduceEq,↓reduceIte,hv]
      omega
    · omega

theorem isDigit_zeros (n : Nat) : ∀ c ∈ List.replicate n '0', isDigit c = true := by
  intro c hc
  rw [List.eq_of_mem_replicate hc]
  decide

theorem isDigit_append {cs ds : List Char} (hc : ∀ c ∈ cs, isDigit c = true)
    (hd : ∀ c ∈ ds, isDigit c = true) : ∀ c ∈ cs ++ ds, isDigit c = true := by
  intro c h
  rcases List.mem_append.mp h with h | h
  · exact hc c h
  · exact hd c h

/-- Digits and the parts behind them, which can be read together if the decimal is one that can be
read. -/
inductive Spells (d : Binary64.Decimal) : List Char → Prop
  | parts (hn : ds ≠ []) (hd : ∀ c ∈ ds, isDigit c = true) (hp : Parts fs es)
      (hw : d.Readable → Written ds fs es) : Spells d (ds ++ (fs ++ es))

/-- Where the digits and the exponent are those of the decimal. -/
theorem written_of {d : Binary64.Decimal} (h : d.Readable) (front : ∀ c cs, ds ≠ '0' :: c :: cs)
    (hs : ofDigits (ds ++ fs.tail) = d.digits) (he : exponentOf es - fs.tail.length = d.exponent)
    (hr : es.tail.head? = some '-' ∨ ofDigits (es.drop 2) < 0x80000000) : Written ds fs es where
  front := front
  significand := by
    rw [hs]
    exact h.digits.trans_lt (by decide)
  exponent := hr
  read := by
    rw [hs,he]
    exact h.read

section Spelling

variable {d : Binary64.Decimal}

theorem length_le (h : d.Readable) : (digits d.digits).length ≤ 18 :=
  (digits_length_le (by decide)).mpr (h.digits.trans_lt (by decide))

theorem spells_one {lead : Int} (hc : digits d.digits = [c]) (hl : lead = d.exponent) :
    Spells d (c :: 'e' :: Binary64.exponentText lead) := by
  obtain ⟨sign,e,es,he,hs,hes,hexp,hroom⟩ := exponentText_parts lead
  have hd : ∀ x ∈ [c], isDigit x = true := fun x hx => isDigit_digits (hc ▸ hx)
  have hv : ofDigits [c] = d.digits := hc ▸ ofDigits_digits d.digits
  rw [he] at hexp ⊢
  have hp : Parts [] ('e' :: sign :: e :: es) := ⟨Or.inl rfl,Or.inr ⟨sign,e,es,rfl,hs,hes⟩⟩
  refine .parts (List.cons_ne_nil c []) hd hp (fun h => ?_)
  refine written_of h (hc ▸ digits_front d.digits) hv ?_ ?_
  · rw [hexp,hl,List.tail_nil,List.length_nil,Int.natCast_zero,Int.sub_zero]
  · have hle := h.exponent
    simpa using hroom (by omega)

theorem spells_many {lead : Int} (hc : digits d.digits = c :: f :: fs)
    (hl : lead = d.exponent + (f :: fs).length) :
    Spells d (c :: '.' :: (f :: fs ++ 'e' :: Binary64.exponentText lead)) := by
  obtain ⟨sign,e,es,he,hs,hes,hexp,hroom⟩ := exponentText_parts lead
  have hd : ∀ x ∈ c :: f :: fs, isDigit x = true := fun x hx => isDigit_digits (hc ▸ hx)
  have hv : ofDigits (c :: f :: fs) = d.digits := hc ▸ ofDigits_digits d.digits
  rw [he] at hexp ⊢
  have hp : Parts ('.' :: f :: fs) ('e' :: sign :: e :: es) :=
    ⟨Or.inr ⟨f,fs,rfl,fun x hx => hd x (List.mem_cons_of_mem _ hx)⟩,
      Or.inr ⟨sign,e,es,rfl,hs,hes⟩⟩
  refine .parts (List.cons_ne_nil c []) (fun x hx => hd x (by simp_all)) hp (fun h => ?_)
  refine written_of h (by simp) hv ?_ ?_
  · rw [hexp,hl,List.tail_cons,Int.add_sub_cancel]
  · have hlen := length_le h
    have hle := h.exponent
    rw [hc,List.length_cons] at hlen
    simpa using hroom (by omega)

/-- Zeros are put behind the digits. -/
theorem spells_whole (he : 0 ≤ d.exponent)
    (hl : d.exponent + (digits d.digits).length - 1 ≤ 15) :
    Spells d (digits d.digits ++ List.replicate d.exponent.toNat '0' ++ ['.','0']) := by
  obtain ⟨k,hk⟩ := Int.eq_ofNat_of_zero_le he
  rw [hk] at hl ⊢
  rw [Int.toNat_natCast]
  have hd : ∀ c ∈ digits d.digits, isDigit c = true := fun c => isDigit_digits
  have hp : Parts ['.','0'] [] := ⟨Or.inr ⟨'0',[],rfl,isDigit_zeros 1⟩,Or.inl rfl⟩
  refine .parts (List.append_ne_nil_of_left_ne_nil (digits_ne_nil _) _)
    (isDigit_append hd (isDigit_zeros k)) hp (fun h => ?_)
  have hs : ofDigits (digits d.digits ++ List.replicate k '0' ++ ['0']) < 0x10000000000000000 := by
    have hlt : d.digits * 10 ^ (k + 1) < 10 ^ (digits d.digits).length * 10 ^ (k + 1) :=
      Nat.mul_lt_mul_of_pos_right (lt_pow_digits _) (Nat.pow_pos (by decide))
    rw [List.append_assoc,← List.replicate_succ',ofDigits_then_zeros,ofDigits_digits]
    rw [← Nat.pow_add] at hlt
    exact hlt.trans ((Nat.pow_le_pow_right (by decide) (by omega : _ ≤ 17)).trans_lt (by decide))
  refine ⟨?_,hs,Or.inr (by decide),Binary64.ofDecimal?_down hs (by decide)⟩
  intro c cs hcs
  obtain ⟨f,r,hf⟩ := List.exists_cons_of_ne_nil (digits_ne_nil d.digits)
  rw [hf,List.cons_append] at hcs
  obtain ⟨rfl,hr⟩ := List.cons.inj hcs
  have hz : k = 0 := by
    have h := h.front (digits_zero_front hf)
    omega
  rw [hz,List.replicate_zero,List.append_nil] at hr
  exact digits_front _ c cs (hr ▸ hf)

/-- A point stands among the digits. -/
theorem spells_among {n : Nat} (he : d.exponent + (digits d.digits).length = n) (hpos : 0 < n)
    (hn : n < (digits d.digits).length) :
    Spells d ((digits d.digits).take n ++ '.' :: (digits d.digits).drop n) := by
  obtain ⟨f,fs,hf⟩ := List.exists_cons_of_ne_nil (List.drop_eq_nil_iff.not.mpr (Nat.not_le.mpr hn))
  have hwhole : (digits d.digits).take n ++ f :: fs = digits d.digits :=
    hf ▸ List.take_append_drop n _
  have hlen : (f :: fs).length = (digits d.digits).length - n := hf ▸ List.length_drop
  have hd : ∀ c ∈ (digits d.digits).take n ++ f :: fs, isDigit c = true := by
    rw [hwhole]
    exact fun c => isDigit_digits
  have hne : (digits d.digits).take n ≠ [] := by
    intro h
    rcases List.take_eq_nil_iff.mp h with h | h
    · exact hpos.ne' h
    · exact digits_ne_nil _ h
  rw [hf,← List.append_nil ('.' :: f :: fs)]
  refine .parts hne (fun c hc => hd c (List.mem_append_left _ hc))
    ⟨Or.inr ⟨f,fs,rfl,fun c hc => hd c (List.mem_append_right _ hc)⟩,Or.inl rfl⟩ (fun h => ?_)
  refine written_of h ?_ ?_ ?_ (Or.inr (by decide))
  · intro c cs hcs
    rw [hcs] at hwhole
    exact digits_front _ _ _ hwhole.symm
  · rw [List.tail_cons,hwhole,ofDigits_digits]
  · rw [List.tail_cons,hlen,exponentOf_nil]
    omega

/-- The digits stand behind the point, and zeros in front of them. -/
theorem spells_behind {n : Nat} (he : d.exponent + (digits d.digits).length = -n) :
    Spells d ('0' :: '.' :: (List.replicate n '0' ++ digits d.digits)) := by
  have hd : ∀ c ∈ List.replicate n '0' ++ digits d.digits, isDigit c = true :=
    isDigit_append (isDigit_zeros n) (fun c => isDigit_digits)
  obtain ⟨f,fs,hf⟩ := List.exists_cons_of_ne_nil
    (List.append_ne_nil_of_right_ne_nil (List.replicate n '0') (digits_ne_nil d.digits))
  have hlen : (f :: fs).length = n + (digits d.digits).length := by
    rw [← hf,List.length_append,List.length_replicate]
  have hv : ofDigits ('0' :: (f :: fs)) = d.digits := by
    rw [← hf,← List.cons_append,← List.replicate_succ,ofDigits_after_zeros,ofDigits_digits]
  rw [hf] at hd ⊢
  rw [← List.append_nil ('.' :: f :: fs)]
  refine .parts (List.cons_ne_nil '0' []) (isDigit_zeros 1)
    ⟨Or.inr ⟨f,fs,rfl,hd⟩,Or.inl rfl⟩ (fun h => ?_)
  refine written_of h (by simp) hv ?_ (Or.inr (by decide))
  rw [List.tail_cons,hlen,exponentOf_nil]
  omega

variable (d) in
/-- A number in decimals is digits and the parts behind them. -/
theorem decimalText_spells : Spells d (Binary64.decimalText d) := by
  obtain ⟨c,cs,hc⟩ := List.exists_cons_of_ne_nil (digits_ne_nil d.digits)
  unfold Binary64.decimalText
  dsimp only
  split
  · cases cs with
    | nil =>
      rw [hc]
      exact spells_one hc (by simp)
    | cons f fs =>
      rw [hc]
      exact spells_many hc (by simp; omega)
  split
  · rename_i hl he
    exact spells_whole he (by omega)
  split
  · rename_i hneg hl
    have hn : (d.exponent + (digits d.digits).length - 1).toNat + 1 =
        d.exponent + (digits d.digits).length := by omega
    exact spells_among hn.symm (Nat.succ_pos _) (by omega)
  · exact spells_behind (by omega)

end Spelling

end BuildFarm.Json.Reader
