import BuildFarm.Proofs.Json.Literals
import BuildFarm.Proofs.Json.Numerals

namespace BuildFarm.Json

open Text

/-- How values are laid out: what stands before an item of the level below, or before the bracket
that closes the level, and what stands behind a colon. -/
structure Style where
  gap : Nat → List Char
  space : List Char
  blank_gap (level : Nat) : Blank (glyphs (gap level))
  blank_space : Blank (glyphs space)

namespace Style

/-- Every item on a line of its own. -/
def airy : Style where
  gap := newline
  space := [' ']
  blank_gap := blank_newline
  blank_space := by
    intro g hg
    cases List.mem_singleton.mp hg
    decide

/-- No blanks at all. -/
def tight : Style where
  gap _ := []
  space := []
  blank_gap _ := blank_nil
  blank_space := blank_nil

mutual

def spelled (st : Style) (level : Nat) : Json → List Char
  | .null => nullLiteral
  | .bool b => boolLiteral b
  | .int n => intLiteral n
  | .float x => x.text
  | .text s => textLiteral s
  | .array [] => ['[',']']
  | .array (j :: rest) => '[' :: spelledItems st level (j :: rest)
  | .object [] => ['{','}']
  | .object (m :: rest) => '{' :: spelledMembers st level (m :: rest)

def spelledItems (st : Style) (level : Nat) : List Json → List Char
  | [] => st.gap level ++ [']']
  | [j] => st.gap (level + 1) ++ spelled st (level + 1) j ++ st.gap level ++ [']']
  | j :: k :: rest =>
    st.gap (level + 1) ++ spelled st (level + 1) j ++ ',' :: spelledItems st level (k :: rest)

def spelledMembers (st : Style) (level : Nat) : List (String × Json) → List Char
  | [] => st.gap level ++ ['}']
  | [(s,j)] => st.gap (level + 1) ++ textLiteral s ++ ':' ::
      (st.space ++ (spelled st (level + 1) j ++ st.gap level ++ ['}']))
  | (s,j) :: k :: rest => st.gap (level + 1) ++ textLiteral s ++ ':' ::
      (st.space ++ (spelled st (level + 1) j ++ ',' :: spelledMembers st level (k :: rest)))

end

mutual

theorem spelled_airy (level : Nat) : ∀ j, airy.spelled level j = pretty level j
  | .null => rfl
  | .bool _ => rfl
  | .int _ => rfl
  | .float _ => rfl
  | .text _ => rfl
  | .array [] => rfl
  | .array (j :: rest) => by
    rw [spelled,pretty,spelledItems_airy level (j :: rest)]
  | .object [] => rfl
  | .object (m :: rest) => by
    rw [spelled,pretty,spelledMembers_airy level (m :: rest)]

theorem spelledItems_airy (level : Nat) :
    ∀ items, airy.spelledItems level items = prettyItems level items
  | [] => rfl
  | [j] => by
    rw [spelledItems,prettyItems,spelled_airy (level + 1) j]
    rfl
  | j :: k :: rest => by
    rw [spelledItems,prettyItems,spelled_airy (level + 1) j,spelledItems_airy level (k :: rest)]
    rfl

theorem spelledMembers_airy (level : Nat) :
    ∀ members, airy.spelledMembers level members = prettyMembers level members
  | [] => rfl
  | [(s,j)] => by
    rw [spelledMembers,prettyMembers,spelled_airy (level + 1) j]
    rfl
  | (s,j) :: k :: rest => by
    rw [spelledMembers,prettyMembers,spelled_airy (level + 1) j,
      spelledMembers_airy level (k :: rest)]
    rfl

end

mutual

theorem spelled_tight (level : Nat) : ∀ j, tight.spelled level j = compact j
  | .null => rfl
  | .bool _ => rfl
  | .int _ => rfl
  | .float _ => rfl
  | .text _ => rfl
  | .array [] => rfl
  | .array (j :: rest) => by
    rw [spelled,compact,spelledItems_tight level (j :: rest)]
  | .object [] => rfl
  | .object (m :: rest) => by
    rw [spelled,compact,spelledMembers_tight level (m :: rest)]

theorem spelledItems_tight (level : Nat) :
    ∀ items, tight.spelledItems level items = compactItems items
  | [] => rfl
  | [j] => by
    rw [spelledItems,compactItems,spelled_tight (level + 1) j]
    simp [tight]
  | j :: k :: rest => by
    rw [spelledItems,compactItems,spelled_tight (level + 1) j,spelledItems_tight level (k :: rest)]
    rfl

theorem spelledMembers_tight (level : Nat) :
    ∀ members, tight.spelledMembers level members = compactMembers members
  | [] => rfl
  | [(s,j)] => by
    rw [spelledMembers,compactMembers,spelled_tight (level + 1) j]
    simp [tight]
  | (s,j) :: k :: rest => by
    rw [spelledMembers,compactMembers,spelled_tight (level + 1) j,
      spelledMembers_tight level (k :: rest)]
    rfl

end

variable (st : Style)

/-- What follows an item of a list that is printed. -/
def itemsAfter (level : Nat) (items : List Json) : List Char :=
  match items with
  | [] => st.gap level ++ [']']
  | j :: rest => ',' :: st.spelledItems level (j :: rest)

theorem spelledItems_cons (level : Nat) (j : Json) (rest : List Json) :
    st.spelledItems level (j :: rest) =
      st.gap (level + 1) ++ (st.spelled (level + 1) j ++ st.itemsAfter level rest) := by
  cases rest <;> simp [spelledItems,itemsAfter]

theorem itemsAfter_cons (level : Nat) (j : Json) (rest : List Json) :
    st.itemsAfter level (j :: rest) =
      ',' :: (st.gap (level + 1) ++ (st.spelled (level + 1) j ++ st.itemsAfter level rest)) := by
  rw [itemsAfter,spelledItems_cons]

/-- What follows a member of an object that is printed. -/
def membersAfter (level : Nat) (members : List (String × Json)) : List Char :=
  match members with
  | [] => st.gap level ++ ['}']
  | m :: rest => ',' :: st.spelledMembers level (m :: rest)

/-- A member as it is printed, from behind the quote that opens its key. -/
def memberText (level : Nat) (k : String) (j : Json) : List Char :=
  k.toList.flatMap escapeChar ++ '"' :: ':' :: (st.space ++ st.spelled level j)

theorem spelledMembers_cons (level : Nat) (k : String) (j : Json) (rest : List (String × Json)) :
    st.spelledMembers level ((k,j) :: rest) = st.gap (level + 1) ++
      '"' :: (st.memberText (level + 1) k j ++ st.membersAfter level rest) := by
  cases rest <;> simp [spelledMembers,membersAfter,memberText,textLiteral]

theorem membersAfter_cons (level : Nat) (k : String) (j : Json) (rest : List (String × Json)) :
    st.membersAfter level ((k,j) :: rest) = ',' :: (st.gap (level + 1) ++
      '"' :: (st.memberText (level + 1) k j ++ st.membersAfter level rest)) := by
  rw [membersAfter,spelledMembers_cons]

end Style

theorem digit_front {c : Char} (h : isDigit c = true) :
    Reader.isBlank (.char c) = false ∧ c ≠ ']' ∧ c ≠ 'n' := by
  refine ⟨?_,?_,?_⟩
  · simp only [Reader.isBlank,Bool.or_eq_false_iff,decide_eq_false_iff_not,Glyph.char.injEq]
    refine ⟨⟨⟨?_,?_⟩,?_⟩,?_⟩ <;> rintro rfl <;> revert h <;> decide
  · rintro rfl
    revert h
    decide
  · rintro rfl
    revert h
    decide

/-- No value begins with a blank or with what closes a list; and only null begins as null does. -/
theorem Style.spelled_front (st : Style) (level : Nat) (j : Json) :
    ∃ c cs, st.spelled level j = c :: cs ∧ Reader.isBlank (.char c) = false ∧ c ≠ ']' ∧
      (c = 'n' → j = .null) := by
  have of_digits {ds : List Char} (cs : List Char) (hn : ds ≠ []) (h : ∀ c ∈ ds, isDigit c = true) :
      ∃ c cs', ds ++ cs = c :: cs' ∧ Reader.isBlank (.char c) = false ∧ c ≠ ']' ∧
        (c = 'n' → j = .null) := by
    obtain ⟨d,ds,rfl⟩ := List.exists_cons_of_ne_nil hn
    obtain ⟨hb,hc,hnull⟩ := digit_front (h d List.mem_cons_self)
    exact ⟨d,ds ++ cs,rfl,hb,hc,fun he => absurd he hnull⟩
  cases j with
  | null => exact ⟨'n',_,rfl,by decide,by decide,fun _ => rfl⟩
  | bool b => cases b <;> exact ⟨_,_,rfl,by decide,by decide,by simp⟩
  | int n =>
    simp only [spelled,intLiteral]
    split
    · exact ⟨'-',_,rfl,by decide,by decide,by simp⟩
    · have h := of_digits [] (digits_ne_nil n.natAbs) (fun c => isDigit_digits)
      simpa using h
  | float x =>
    simp only [spelled,Binary64.text]
    split
    · exact ⟨'-',_,rfl,by decide,by decide,by simp⟩
    · have hs := Reader.decimalText_spells x.shortest
      rw [List.nil_append]
      generalize Binary64.decimalText x.shortest = cs at hs
      cases hs with
      | parts hn hd _ _ => exact of_digits _ hn hd
  | text s => exact ⟨'"',_,rfl,by decide,by decide,by simp⟩
  | array items => cases items <;> exact ⟨'[',_,rfl,by decide,by decide,by simp⟩
  | object members => cases members <;> exact ⟨'{',_,rfl,by decide,by decide,by simp⟩

theorem ends_of_blank {g : Glyph} (h : Reader.isBlank g = true) : Reader.Ends (g :: rest) := by
  simp only [Reader.isBlank,Bool.or_eq_true,decide_eq_true_eq] at h
  rcases h with ((rfl | rfl) | rfl) | rfl <;>
    exact Reader.ends_cons (by decide) (by decide) (by decide)

theorem ends_behind {ws rest : List Glyph} (hb : Blank ws) (h : Reader.Ends rest) :
    Reader.Ends (ws ++ rest) := by
  cases ws with
  | nil => exact h
  | cons w ws => exact ends_of_blank (hb w List.mem_cons_self)

namespace Style

variable (st : Style)

theorem itemsAfter_ends (level : Nat) (items : List Json) (rest : List Glyph) :
    Reader.Ends (glyphs (st.itemsAfter level items) ++ rest) := by
  cases items with
  | nil =>
    rw [itemsAfter,glyphs_append,List.append_assoc]
    exact ends_behind (st.blank_gap level)
      (Reader.ends_cons (by decide) (by decide) (by decide))
  | cons j items => exact Reader.ends_cons (by decide) (by decide) (by decide)

theorem membersAfter_ends (level : Nat) (members : List (String × Json)) (rest : List Glyph) :
    Reader.Ends (glyphs (st.membersAfter level members) ++ rest) := by
  cases members with
  | nil =>
    rw [membersAfter,glyphs_append,List.append_assoc]
    exact ends_behind (st.blank_gap level)
      (Reader.ends_cons (by decide) (by decide) (by decide))
  | cons m members => exact Reader.ends_cons (by decide) (by decide) (by decide)

theorem itemsAfter_length (level : Nat) (items : List Json) :
    items.length < (st.itemsAfter level items).length := by
  induction items with
  | nil => simp [itemsAfter]
  | cons j items ih =>
    simp only [itemsAfter_cons,List.length_cons,List.length_append] at ih ⊢
    omega

theorem membersAfter_length (level : Nat) (members : List (String × Json)) :
    members.length < (st.membersAfter level members).length := by
  induction members with
  | nil => simp [membersAfter]
  | cons m members ih =>
    obtain ⟨k,j⟩ := m
    simp only [membersAfter_cons,List.length_cons,List.length_append] at ih ⊢
    omega

theorem spelled_array (level : Nat) (items : List Json) :
    st.spelled level (.array items) =
      '[' :: (if items = [] then [']'] else st.spelledItems level items) := by
  cases items <;> simp [spelled]

theorem spelled_object (level : Nat) (members : List (String × Json)) :
    st.spelled level (.object members) =
      '{' :: (if members = [] then ['}'] else st.spelledMembers level members) := by
  cases members <;> simp [spelled]

end Style

end BuildFarm.Json
