import BuildFarm.Proofs.Json.Containers

namespace BuildFarm.Json

open Text

mutual

/-- The whole numbers have room in 64 bits, and the other numbers are as `p` says. -/
def numbers (p : Binary64 → Bool) : Json → Bool
  | .int n => least ≤ n && n ≤ greatest
  | .float x => p x
  | .array items => numbersItems p items
  | .object members => numbersMembers p members
  | _ => true

def numbersItems (p : Binary64 → Bool) : List Json → Bool
  | [] => true
  | j :: rest => numbers p j && numbersItems p rest

def numbersMembers (p : Binary64 → Bool) : List (String × Json) → Bool
  | [] => true
  | (_,j) :: rest => numbers p j && numbersMembers p rest

end

/-- The value is not nested too deeply, and its numbers are as `p` says. -/
structure Held (p : Binary64 → Bool) (levels : Nat) (j : Json) : Prop where
  depth : j.depth ≤ levels
  numbers : j.numbers p = true

/-- All numbers are whole. -/
abbrev Plain : Nat → Json → Prop :=
  Held (fun _ => false)

/-- All numbers are whole, however deeply the value is nested. -/
abbrev Whole (j : Json) : Prop :=
  j.numbers (fun _ => false) = true

/-- All numbers are such as there are. -/
abbrev Genuine (j : Json) : Prop :=
  j.numbers Binary64.isFinite = true

abbrev Readable : Nat → Json → Prop :=
  Held Binary64.isFinite

theorem depthItems_le {items : List Json} {n : Nat} :
    depthItems items ≤ n ↔ ∀ j ∈ items, j.depth ≤ n := by
  induction items with
  | nil => simp [depthItems]
  | cons j rest ih => simp [depthItems,ih]

theorem depthMembers_le {members : List (String × Json)} {n : Nat} :
    depthMembers members ≤ n ↔ ∀ m ∈ members, m.2.depth ≤ n := by
  induction members with
  | nil => simp [depthMembers]
  | cons m rest ih => simp [depthMembers,ih]

theorem numbersItems_iff {p : Binary64 → Bool} {items : List Json} :
    numbersItems p items = true ↔ ∀ j ∈ items, j.numbers p = true := by
  induction items with
  | nil => simp [numbersItems]
  | cons j rest ih => simp [numbersItems,ih]

theorem numbersMembers_iff {p : Binary64 → Bool} {members : List (String × Json)} :
    numbersMembers p members = true ↔ ∀ m ∈ members, m.2.numbers p = true := by
  induction members with
  | nil => simp [numbersMembers]
  | cons m rest ih => simp [numbersMembers,ih]

mutual

theorem numbers_mono {p q : Binary64 → Bool} (h : ∀ x, p x = true → q x = true) :
    ∀ j : Json, j.numbers p = true → j.numbers q = true
  | .null,_ => rfl
  | .bool _,_ => rfl
  | .int _,hp => hp
  | .float x,hp => h x hp
  | .text _,_ => rfl
  | .array items,hp => numbersItems_mono h items hp
  | .object members,hp => numbersMembers_mono h members hp

theorem numbersItems_mono {p q : Binary64 → Bool} (h : ∀ x, p x = true → q x = true) :
    ∀ items : List Json, numbersItems p items = true → numbersItems q items = true
  | [],_ => rfl
  | j :: rest,hp => by
    obtain ⟨hj,hrest⟩ := Bool.and_eq_true_iff.mp hp
    exact Bool.and_eq_true_iff.mpr ⟨numbers_mono h j hj,numbersItems_mono h rest hrest⟩

theorem numbersMembers_mono {p q : Binary64 → Bool} (h : ∀ x, p x = true → q x = true) :
    ∀ members : List (String × Json),
      numbersMembers p members = true → numbersMembers q members = true
  | [],_ => rfl
  | (_,j) :: rest,hp => by
    obtain ⟨hj,hrest⟩ := Bool.and_eq_true_iff.mp hp
    exact Bool.and_eq_true_iff.mpr ⟨numbers_mono h j hj,numbersMembers_mono h rest hrest⟩

end

namespace Held

variable {p : Binary64 → Bool} {levels : Nat}

theorem item {items : List Json} (h : Held p (levels + 1) (.array items)) (hj : j ∈ items) :
    Held p levels j where
  depth := depthItems_le.mp (Nat.le_of_succ_le_succ h.depth) j hj
  numbers := numbersItems_iff.mp h.numbers j hj

theorem member {members : List (String × Json)} (h : Held p (levels + 1) (.object members))
    (hm : m ∈ members) : Held p levels m.2 where
  depth := depthMembers_le.mp (Nat.le_of_succ_le_succ h.depth) m hm
  numbers := numbersMembers_iff.mp h.numbers m hm

end Held

theorem Plain.readable (h : Plain levels j) : Readable levels j :=
  ⟨h.depth,numbers_mono (fun _ hx => Bool.noConfusion hx) j h.numbers⟩

namespace Reader

variable {st : Style}

theorem not_digit_front {c : Char} (h : isDigit c = true) :
    c ≠ 'n' ∧ c ≠ 't' ∧ c ≠ 'f' ∧ c ≠ '-' ∧ c ≠ '"' ∧ c ≠ '[' ∧ c ≠ '{' := by
  refine ⟨?_,?_,?_,?_,?_,?_,?_⟩
  all_goals
    rintro rfl
    revert h
    decide

theorem content_digit {ds : List Char} (hn : ds ≠ []) (hd : ∀ c ∈ ds, isDigit c = true)
    (hb : Blank ws) {mid : List Glyph} {P : Numeral → Prop}
    (h : Reads (numeral true) fault (glyphs ds ++ mid) rest P) (levels : Nat) :
    Reads (content levels) fault (ws ++ (glyphs ds ++ mid)) rest
      (fun v => ∃ n, P n ∧ v = n.toJson) := by
  obtain ⟨d,ds,rfl⟩ := List.exists_cons_of_ne_nil hn
  have hdigit := hd d List.mem_cons_self
  obtain ⟨h1,h2,h3,h4,h5,h6,h7⟩ := not_digit_front hdigit
  unfold content
  refine Reads.next_bind hb (digit_front hdigit).1 ?_
  split
  any_goals
    rename_i he
    cases he
    contradiction
  · cases ‹some (Glyph.char d) = none›
  · rename_i he
    cases he
    rw [if_pos (by simp [glyphDigit?_char hdigit])]
    refine h.bind ?_
    intro n hp
    exact Reads.pure ⟨n,hp,rfl⟩

theorem content_negative (hb : Blank ws) {mid : List Glyph} {P : Numeral → Prop}
    (h : Reads (numeral false) fault mid rest P) (levels : Nat) :
    Reads (content levels) fault (ws ++ .char '-' :: mid) rest
      (fun v => ∃ n, P n ∧ v = n.toJson) := by
  unfold content
  refine Reads.next_bind hb (by decide) (Reads.skip_bind (h.bind ?_))
  intro n hp
  exact Reads.pure ⟨n,hp,rfl⟩

theorem content_int (n : Int) (levels level : Nat) (hb : Blank ws) (hr : Ends rest) :
    Reads (content levels) (¬Readable levels (.int n))
      (ws ++ (glyphs (st.spelled level (.int n)) ++ rest)) rest
      (fun v => Plain levels (.int n) → v = .int n) := by
  have hd : ∀ c ∈ digits n.natAbs, isDigit c = true := fun c => isDigit_digits
  by_cases hp : Readable levels (.int n)
  · have hn : least ≤ n ∧ n ≤ greatest := by simpa [numbers] using hp.numbers
    have hread : Reads _ (¬Readable levels (.int n)) _ rest _ := numeral_signed hn hr
    simp only [Style.spelled,intLiteral]
    split
    · rw [decide_eq_false (by omega)] at hread
      refine (content_negative hb hread levels).value ?_
      rintro v ⟨m,rfl,rfl⟩ _
      rfl
    · rw [decide_eq_true (by omega)] at hread
      refine (content_digit (digits_ne_nil _) hd hb hread levels).value ?_
      rintro v ⟨m,rfl,rfl⟩ _
      rfl
  · have taken (positive : Bool) : Reads (numeral positive) (¬Readable levels (.int n))
        (glyphs (digits n.natAbs) ++ rest) rest (fun _ => True) :=
      numeral_taken (digits_ne_nil _) hd ⟨Or.inl rfl,Or.inl rfl⟩ hr positive
        (fun hf => absurd hp hf)
    simp only [Style.spelled,intLiteral]
    split
    · exact (content_negative hb (taken false) levels).value
        (fun v _ h => absurd h.readable hp)
    · exact (content_digit (digits_ne_nil _) hd hb (taken true) levels).value
        (fun v _ h => absurd h.readable hp)

theorem content_float (x : Binary64) (levels level : Nat) (hb : Blank ws) (hr : Ends rest) :
    Reads (content levels) (¬Readable levels (.float x))
      (ws ++ (glyphs (st.spelled level (.float x)) ++ rest)) rest
      (fun v => Plain levels (.float x) → v = .float x) := by
  have hp : ¬Plain levels (.float x) := fun h => Bool.noConfusion h.numbers
  have hs := decimalText_spells x.shortest
  simp only [Style.spelled,Binary64.text]
  generalize Binary64.decimalText x.shortest = cs at hs
  cases hs with
  | parts hn hd hparts hw =>
    have hw : ¬¬Readable levels (.float x) → Written _ _ _ :=
      fun h => hw (Binary64.shortest_readable (not_not.mp h).numbers)
    split
    · have h := content_negative hb (numeral_taken hn hd hparts hr false hw) levels
      simp only [List.cons_append,List.nil_append,glyphs_cons,glyphs_append,List.append_assoc]
        at h ⊢
      exact h.value (fun v _ h => absurd h hp)
    · have h := content_digit hn hd hb (numeral_taken hn hd hparts hr true hw) levels
      simp only [List.nil_append,glyphs_append,List.append_assoc] at h ⊢
      exact h.value (fun v _ h => absurd h hp)

/-- What a printed value is read back as: only a value that is not nested too deeply is read, and
one that is plain is found again. -/
structure Found (levels : Nat) (j v : Json) : Prop where
  depth : j.depth ≤ levels
  same : Plain levels j → v = j

theorem content_scalar (levels level : Nat) {j : Json} (ha : ∀ items, j ≠ .array items)
    (ho : ∀ members, j ≠ .object members) (hb : Blank ws) (hr : Ends rest) :
    Reads (content levels) (¬Readable levels j) (ws ++ (glyphs (st.spelled level j) ++ rest)) rest
      (Found levels j) := by
  have same {j : Json} (hd : j.depth ≤ levels) : Found levels j j := ⟨hd,fun _ => rfl⟩
  cases j with
  | null =>
    unfold content
    refine Reads.next_bind hb (by decide) (Reads.skip_bind ?_)
    exact (Reads.word ['u','l','l']).bind (fun _ _ => Reads.pure (same (Nat.zero_le _)))
  | bool b =>
    unfold content
    cases b
    · refine Reads.next_bind hb (by decide) (Reads.skip_bind ?_)
      exact (Reads.word ['a','l','s','e']).bind (fun _ _ => Reads.pure (same (Nat.zero_le _)))
    · refine Reads.next_bind hb (by decide) (Reads.skip_bind ?_)
      exact (Reads.word ['r','u','e']).bind (fun _ _ => Reads.pure (same (Nat.zero_le _)))
  | int m => exact (content_int m levels level hb hr).value (fun _ h => ⟨Nat.zero_le _,h⟩)
  | float x => exact (content_float x levels level hb hr).value (fun _ h => ⟨Nat.zero_le _,h⟩)
  | text s =>
    unfold content
    have hi : glyphs (st.spelled level (.text s)) ++ rest =
        .char '"' :: (glyphs (s.toList.flatMap escapeChar) ++ .char '"' :: rest) := by
      simp [Style.spelled,textLiteral]
    rw [hi]
    refine Reads.next_bind hb (by decide) (Reads.skip_bind ((textRest_reads s rest).bind ?_))
    rintro _ rfl
    exact Reads.pure (same (Nat.zero_le _))
  | array items => exact absurd rfl (ha items)
  | object members => exact absurd rfl (ho members)

theorem forall₂_same {β : Type} {R : β → β → Prop} {xs ys : List β} (h : List.Forall₂ R xs ys)
    (hs : ∀ x ∈ xs, ∀ y, R x y → y = x) : ys = xs := by
  induction h with
  | nil => rfl
  | cons hx _ ih =>
    rw [hs _ List.mem_cons_self _ hx,ih (fun x hm => hs x (List.mem_cons_of_mem _ hm))]

theorem forall₂_left {β γ : Type} {R : β → γ → Prop} {xs : List β} {ys : List γ} {x : β}
    (h : List.Forall₂ R xs ys) (hx : x ∈ xs) : ∃ y ∈ ys, R x y := by
  induction h with
  | nil => cases hx
  | cons hr _ ih =>
    rcases List.mem_cons.mp hx with rfl | hx
    · exact ⟨_,List.mem_cons_self,hr⟩
    · obtain ⟨y,hy,hr⟩ := ih hx
      exact ⟨y,List.mem_cons_of_mem _ hy,hr⟩

/-- What the members before those that are still to come were read into. -/
def MembersRead (R : String × Json → String × α → Prop) (members more : List (String × Json))
    (read : List (String × α)) : Prop :=
  ∃ before, before ++ more = members ∧ List.Forall₂ R before read.reverse

theorem members_reads {r : Reader α} {level : Nat} {members : List (String × Json)}
    {Q : Json → α → Prop} (h : ∀ m ∈ members, ∀ rest, Ends rest → Reads r fault
      (glyphs st.space ++ (glyphs (st.spelled (level + 1) m.2) ++ rest)) rest (Q m.2)) (rest : List Glyph) :
    Reads (Reader.members r) fault
      (glyphs (if members = [] then ['}'] else st.spelledMembers level members) ++ rest) rest
      (List.Forall₂ (fun m v => v.1 = m.1 ∧ Q m.2 v.2) members) := by
  have hm : ReadsMembers st (fun read => do
      let k ← memberKey
      colon
      return (k,← r) :: read) fault (level + 1)
      (MembersRead (fun m v => v.1 = m.1 ∧ Q m.2 v.2) members) := by
    rintro k j more read rest ⟨before,hmembers,hread⟩ hr
    refine (memberKey_text (level + 1) k j rest).bind ?_
    rintro k rfl
    refine (colon_reads _).bind ?_
    intro _ _
    refine (h (k,j) (hmembers ▸ List.mem_append_right _ List.mem_cons_self) rest hr).bind ?_
    intro v hv
    refine Reads.pure ⟨before ++ [(k,j)],by simpa using hmembers,?_⟩
    rw [List.reverse_cons]
    exact List.rel_append hread (.cons ⟨rfl,hv⟩ .nil)
  refine (foldMembers_reads hm ⟨[],rfl,.nil⟩ rest).bind ?_
  rintro read ⟨before,hmembers,hread⟩
  rw [List.append_nil] at hmembers
  exact Reads.pure (hmembers ▸ hread)

theorem content_array (levels level : Nat) (items : List Json) (hb : Blank ws)
    (h : ∀ j ∈ items, ∀ rest, Ends rest → Reads (content levels) (¬Readable levels j)
      (glyphs (st.spelled (level + 1) j) ++ rest) rest (Found levels j)) :
    Reads (content (levels + 1)) (¬Readable (levels + 1) (.array items))
      (ws ++ (glyphs (st.spelled level (.array items)) ++ rest)) rest
      (Found (levels + 1) (.array items)) := by
  unfold content
  rw [st.spelled_array]
  refine Reads.next_bind hb (by decide) (Reads.skip_bind ?_)
  have he : ReadsItems st (content levels) (¬Readable (levels + 1) (.array items)) (level + 1) items
      (Found levels) := by
    intro j hj rest hr
    exact (h j hj rest hr).mono (fun hn hp => hn (hp.item hj)) (fun _ h => h)
  refine ((elements_reads he rest).closing closeList).bind ?_
  intro js hjs
  refine Reads.pure ⟨?_,fun hp => congrArg Json.array ?_⟩
  · refine Nat.succ_le_succ (depthItems_le.mpr (fun j hj => ?_))
    obtain ⟨v,_,hv⟩ := forall₂_left hjs hj
    exact hv.depth
  · exact forall₂_same hjs (fun j hj v hv => hv.same (hp.item hj))

theorem content_object (levels level : Nat) (members : List (String × Json)) (hb : Blank ws)
    (h : ∀ m ∈ members, ∀ rest, Ends rest → Reads (content levels) (¬Readable levels m.2)
      (glyphs st.space ++ (glyphs (st.spelled (level + 1) m.2) ++ rest)) rest (Found levels m.2)) :
    Reads (content (levels + 1)) (¬Readable (levels + 1) (.object members))
      (ws ++ (glyphs (st.spelled level (.object members)) ++ rest)) rest
      (Found (levels + 1) (.object members)) := by
  unfold content
  rw [st.spelled_object]
  refine Reads.next_bind hb (by decide) (Reads.skip_bind ?_)
  have hm : ∀ m ∈ members, ∀ rest, Ends rest →
      Reads (content levels) (¬Readable (levels + 1) (.object members))
        (glyphs st.space ++ (glyphs (st.spelled (level + 1) m.2) ++ rest)) rest
        (Found levels m.2) := by
    intro m hm rest hr
    exact (h m hm rest hr).mono (fun hn hp => hn (hp.member hm)) (fun _ h => h)
  refine ((members_reads hm rest).closing (closeLeniently '}')).bind ?_
  intro ms hms
  refine Reads.pure ⟨?_,fun hp => congrArg Json.object ?_⟩
  · refine Nat.succ_le_succ (depthMembers_le.mpr (fun m hm => ?_))
    obtain ⟨v,_,hv⟩ := forall₂_left hms hm
    exact hv.2.depth
  · exact forall₂_same hms (fun m hm v hv => Prod.ext hv.1 (hv.2.same (hp.member hm)))

/-- A printed value is taken up to its end. -/
theorem content_reads (levels level : Nat) (j : Json) (hb : Blank ws) (hr : Ends rest) :
    Reads (content levels) (¬Readable levels j) (ws ++ (glyphs (st.spelled level j) ++ rest)) rest
      (Found levels j) := by
  induction levels generalizing level j ws rest with
  | zero =>
    cases j with
    | array items =>
      unfold content
      rw [st.spelled_array]
      refine Reads.next_bind hb (by decide) (Reads.failAhead ?_ _)
      exact fun hp => Nat.not_succ_le_zero _ hp.depth
    | object members =>
      unfold content
      rw [st.spelled_object]
      refine Reads.next_bind hb (by decide) (Reads.failAhead ?_ _)
      exact fun hp => Nat.not_succ_le_zero _ hp.depth
    | _ => exact content_scalar 0 level nofun nofun hb hr
  | succ n ih =>
    cases j with
    | array items =>
      exact content_array n level items hb (fun j _ _ hr => ih (level + 1) j blank_nil hr)
    | object members =>
      exact content_object n level members hb (fun m _ _ hr => ih (level + 1) m.2 st.blank_space hr)
    | _ => exact content_scalar (n + 1) level nofun nofun hb hr

theorem value_reads (levels level : Nat) (j : Json) (hb : Blank ws) (hr : Ends rest) :
    Reads (value levels) (¬Readable levels j) (ws ++ (glyphs (st.spelled level j) ++ rest)) rest
      (fun v => j.depth ≤ levels ∧ (Plain levels j → v = j.sorted)) := by
  refine (content_reads levels level j hb hr).bind ?_
  intro v hv
  exact Reads.pure ⟨hv.depth,fun hp => by rw [hv.same hp]⟩

end Reader

end BuildFarm.Json
