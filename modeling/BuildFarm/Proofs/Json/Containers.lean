import BuildFarm.Proofs.Json.Layout
import Mathlib.Data.List.Forall2

namespace BuildFarm.Json

open Text

namespace Reader

variable {st : Style}

theorem anotherElement_first {g : Glyph} (hb : Blank ws) (hg : isBlank g = false)
    (hc : g ≠ .char ']') :
    Reads (anotherElement true) fault (ws ++ g :: rest) (g :: rest) (· = true) := by
  refine Reads.next_bind hb hg ?_
  simp only [if_neg hc,↓reduceIte]
  exact Reads.pure rfl

theorem anotherElement_next {g : Glyph} (hb : Blank ws) (hg : isBlank g = false)
    (hc : g ≠ .char ']') :
    Reads (anotherElement false) fault (.char ',' :: (ws ++ g :: rest)) (g :: rest) (· = true) := by
  refine Reads.next_here (by decide) ?_
  simp only [Bool.false_eq_true,↓reduceIte,Glyph.char.injEq,Char.reduceEq]
  refine Reads.skip_bind (Reads.next_bind hb hg ?_)
  simp only [if_neg hc]
  exact Reads.pure rfl

theorem anotherElement_last (hb : Blank ws) (first : Bool) :
    Reads (anotherElement first) fault (ws ++ .char ']' :: rest) (.char ']' :: rest)
      (· = false) := by
  refine Reads.next_bind hb (by decide) ?_
  simp only [↓reduceIte]
  exact Reads.pure rfl

theorem elementsFrom_cons (b : Glyph) (bound : List Glyph) (element : Reader α) (read : List α) :
    elementsFrom (b :: bound) element read = (do
      if ← anotherElement read.isEmpty then
        let a ← element
        elementsFrom bound element (a :: read)
      else
        skip
        return read.reverse) := by
  funext c
  change _ = Reader.bind (anotherElement read.isEmpty) _ c
  simp only [elementsFrom,Reader.bind]
  cases anotherElement read.isEmpty c with
  | error e => rfl
  | ok p =>
    obtain ⟨more,c⟩ := p
    cases more with
    | true =>
      change _ = Reader.bind element _ c
      simp only [Reader.bind]
      cases element c <;> rfl
    | false =>
      change _ = Reader.bind skip _ c
      cases hs : skip c with
      | error e => simp [Reader.bind,hs,Except.map]
      | ok p =>
        simp only [Reader.bind,hs,Except.map]
        rfl

/-- The element reader takes each printed item, wherever a number would end behind it. -/
def ReadsItems (st : Style) (element : Reader α) (fault : Prop) (level : Nat) (items : List Json)
    (Q : Json → α → Prop) : Prop :=
  ∀ j ∈ items, ∀ rest, Ends rest →
    Reads element fault (glyphs (st.spelled level j) ++ rest) rest (Q j)

/-- The items that follow the first one, and the bracket behind them. -/
theorem elementsFrom_reads {element : Reader α} {items : List Json} {Q : Json → α → Prop}
    (he : ReadsItems st element fault (level + 1) items Q) {bound : List Glyph}
    (hb : items.length < bound.length) {read : List α} (hr : read ≠ []) (rest : List Glyph) :
    Reads (elementsFrom bound element read) fault (glyphs (st.itemsAfter level items) ++ rest) rest
      (fun out => ∃ js, out = read.reverse ++ js ∧ List.Forall₂ Q items js) := by
  have hfirst : read.isEmpty = false := by simpa using hr
  induction items generalizing bound read with
  | nil =>
    obtain ⟨b,bound,rfl⟩ := List.exists_cons_of_length_pos hb
    rw [elementsFrom_cons,hfirst]
    have hi : glyphs (st.itemsAfter level []) ++ rest =
        glyphs (st.gap level) ++ .char ']' :: rest := by simp [Style.itemsAfter]
    rw [hi]
    refine (anotherElement_last (st.blank_gap level) false).bind ?_
    rintro _ rfl
    exact Reads.skip_bind (Reads.pure ⟨[],by simp,.nil⟩)
  | cons j items ih =>
    obtain ⟨b,bound,rfl⟩ := List.exists_cons_of_length_pos (Nat.zero_lt_of_lt hb)
    obtain ⟨c,cs,hc,hblank,hclose,_⟩ := st.spelled_front (level + 1) j
    rw [elementsFrom_cons,hfirst]
    have hi : glyphs (st.itemsAfter level (j :: items)) ++ rest = .char ',' ::
        (glyphs (st.gap (level + 1)) ++
          .char c :: (glyphs cs ++ (glyphs (st.itemsAfter level items) ++ rest))) := by
      simp [Style.itemsAfter_cons,hc]
    rw [hi]
    refine (anotherElement_next (st.blank_gap _) hblank (by simpa using hclose)).bind ?_
    rintro _ rfl
    have hj := he j List.mem_cons_self _ (st.itemsAfter_ends level items rest)
    rw [hc] at hj
    refine hj.bind ?_
    intro a ha
    have hi := ih (fun k hk => he k (List.mem_cons_of_mem _ hk)) (Nat.lt_of_succ_lt_succ hb)
      (List.cons_ne_nil a read) rfl
    refine hi.value ?_
    rintro out ⟨js,rfl,hjs⟩
    exact ⟨a :: js,by simp,.cons ha hjs⟩

/-- The items of a printed list, from behind its bracket. -/
theorem elements_reads {element : Reader α} {items : List Json} {Q : Json → α → Prop}
    (he : ReadsItems st element fault (level + 1) items Q) (rest : List Glyph) :
    Reads (elements element) fault
      (glyphs (if items = [] then [']'] else st.spelledItems level items) ++ rest) rest
      (List.Forall₂ Q items) := by
  constructor
  intro place
  cases items with
  | nil =>
    have h : Reads (elementsFrom (.char ']' :: rest) element []) fault (.char ']' :: rest) rest
        (List.Forall₂ Q []) := by
      rw [elementsFrom_cons]
      refine (anotherElement_last blank_nil true).bind ?_
      rintro _ rfl
      exact Reads.skip_bind (Reads.pure .nil)
    exact h.run place
  | cons j items =>
    obtain ⟨c,cs,hc,hblank,hclose,_⟩ := st.spelled_front (level + 1) j
    have hi : glyphs (if j :: items = [] then [']'] else st.spelledItems level (j :: items)) ++ rest =
        glyphs (st.gap (level + 1)) ++
          .char c :: (glyphs cs ++ (glyphs (st.itemsAfter level items) ++ rest)) := by
      simp [Style.spelledItems_cons,hc]
    have hlen : items.length + 1 < (glyphs (st.gap (level + 1)) ++
        .char c :: (glyphs cs ++ (glyphs (st.itemsAfter level items) ++ rest))).length := by
      have h := st.itemsAfter_length level items
      simp only [List.length_append,List.length_cons,glyphs_length]
      omega
    rw [hi]
    generalize hbound : glyphs (st.gap (level + 1)) ++
      .char c :: (glyphs cs ++ (glyphs (st.itemsAfter level items) ++ rest)) = bound at hlen
    obtain ⟨b,bound,rfl⟩ := List.exists_cons_of_length_pos (Nat.zero_lt_of_lt hlen)
    have h : Reads (elementsFrom (b :: bound) element []) fault (b :: bound) rest
        (List.Forall₂ Q (j :: items)) := by
      rw [elementsFrom_cons,← hbound]
      refine (anotherElement_first (st.blank_gap _) hblank (by simpa using hclose)).bind ?_
      rintro _ rfl
      have hj := he j List.mem_cons_self _ (st.itemsAfter_ends level items rest)
      rw [hc] at hj
      refine hj.bind ?_
      intro a ha
      refine (elementsFrom_reads (fun k hk => he k (List.mem_cons_of_mem _ hk))
        (Nat.lt_of_succ_lt_succ hlen) (List.cons_ne_nil a []) rest).value ?_
      rintro out ⟨js,rfl,hjs⟩
      exact .cons ha hjs
    exact h.run place

theorem anotherMember_first (hb : Blank ws) :
    Reads (anotherMember true) fault (ws ++ .char '"' :: rest) (.char '"' :: rest) (· = true) := by
  refine Reads.next_bind hb (by decide) ?_
  exact Reads.pure rfl

theorem anotherMember_next (hb : Blank ws) :
    Reads (anotherMember false) fault (.char ',' :: (ws ++ .char '"' :: rest)) (.char '"' :: rest)
      (· = true) := by
  refine Reads.next_here (by decide) ?_
  refine Reads.skip_bind (Reads.next_bind hb (by decide) ?_)
  exact Reads.pure rfl

theorem anotherMember_last (hb : Blank ws) (first : Bool) :
    Reads (anotherMember first) fault (ws ++ .char '}' :: rest) (.char '}' :: rest)
      (· = false) := by
  refine Reads.next_bind hb (by decide) ?_
  exact Reads.pure rfl

theorem memberKey_reads (k : String) (rest : List Glyph) :
    Reads memberKey fault (.char '"' :: (glyphs (k.toList.flatMap escapeChar) ++ .char '"' :: rest))
      rest (· = k) :=
  Reads.skip_bind (textRest_reads k rest)

theorem colon_reads (rest : List Glyph) :
    Reads colon fault (.char ':' :: rest) rest (fun _ => True) := by
  refine Reads.next_here (by decide) ?_
  exact Reads.skip _

theorem membersFrom_cons (g : Glyph) (bound : List Glyph) (member : β → Reader β) (first : Bool)
    (b : β) :
    membersFrom (g :: bound) member first b = (do
      if ← anotherMember first then
        let b ← member b
        membersFrom bound member false b
      else
        skip
        return b) := by
  funext c
  change _ = Reader.bind (anotherMember first) _ c
  simp only [membersFrom,Reader.bind]
  cases anotherMember first c with
  | error e => rfl
  | ok p =>
    obtain ⟨more,c⟩ := p
    cases more with
    | true =>
      change _ = Reader.bind (member b) _ c
      simp only [Reader.bind]
      cases member b c <;> rfl
    | false =>
      change _ = Reader.bind skip _ c
      cases hs : skip c with
      | error e => simp [Reader.bind,hs,Except.map]
      | ok p =>
        simp only [Reader.bind,hs,Except.map]
        rfl

/-- The member reader takes each printed member, wherever a number would end behind it. `P` says
what is made of the members before those that are still to come. -/
def ReadsMembers (st : Style) (member : β → Reader β) (fault : Prop) (level : Nat)
    (P : List (String × Json) → β → Prop) : Prop :=
  ∀ k j more b rest, P ((k,j) :: more) b → Ends rest →
    Reads (member b) fault (.char '"' :: (glyphs (st.memberText level k j) ++ rest)) rest (P more)

/-- The members that follow the first one, and the bracket behind them. -/
theorem membersFrom_reads {member : β → Reader β} {P : List (String × Json) → β → Prop}
    (hm : ReadsMembers st member fault (level + 1) P) {members : List (String × Json)}
    {bound : List Glyph} (hb : members.length < bound.length) {b : β} (h : P members b)
    (rest : List Glyph) :
    Reads (membersFrom bound member false b) fault (glyphs (st.membersAfter level members) ++ rest)
      rest (P []) := by
  induction members generalizing bound b with
  | nil =>
    obtain ⟨g,bound,rfl⟩ := List.exists_cons_of_length_pos hb
    have hi : glyphs (st.membersAfter level []) ++ rest =
        glyphs (st.gap level) ++ .char '}' :: rest := by simp [Style.membersAfter]
    rw [membersFrom_cons,hi]
    refine (anotherMember_last (st.blank_gap level) false).bind ?_
    rintro _ rfl
    exact Reads.skip_bind (Reads.pure h)
  | cons m members ih =>
    obtain ⟨k,j⟩ := m
    obtain ⟨g,bound,rfl⟩ := List.exists_cons_of_length_pos (Nat.zero_lt_of_lt hb)
    have hi : glyphs (st.membersAfter level ((k,j) :: members)) ++ rest = .char ',' ::
        (glyphs (st.gap (level + 1)) ++ .char '"' ::
          (glyphs (st.memberText (level + 1) k j) ++
            (glyphs (st.membersAfter level members) ++ rest))) := by
      simp [Style.membersAfter_cons]
    rw [membersFrom_cons,hi]
    refine (anotherMember_next (st.blank_gap _)).bind ?_
    rintro _ rfl
    refine (hm k j members b _ h (st.membersAfter_ends level members rest)).bind ?_
    intro b' hb'
    exact ih (Nat.lt_of_succ_lt_succ hb) hb'

/-- The members of a printed object, from behind its bracket. -/
theorem foldMembers_reads {member : β → Reader β} {P : List (String × Json) → β → Prop}
    (hm : ReadsMembers st member fault (level + 1) P) {members : List (String × Json)} {b : β}
    (h : P members b) (rest : List Glyph) :
    Reads (foldMembers member b) fault
      (glyphs (if members = [] then ['}'] else st.spelledMembers level members) ++ rest) rest
      (P []) := by
  constructor
  intro place
  cases members with
  | nil =>
    have hr : Reads (membersFrom (.char '}' :: rest) member true b) fault (.char '}' :: rest) rest
        (P []) := by
      rw [membersFrom_cons]
      refine (anotherMember_last blank_nil true).bind ?_
      rintro _ rfl
      exact Reads.skip_bind (Reads.pure h)
    exact hr.run place
  | cons m members =>
    obtain ⟨k,j⟩ := m
    have hi : glyphs (if (k,j) :: members = [] then ['}']
        else st.spelledMembers level ((k,j) :: members)) ++ rest =
        glyphs (st.gap (level + 1)) ++ .char '"' ::
          (glyphs (st.memberText (level + 1) k j) ++
            (glyphs (st.membersAfter level members) ++ rest)) := by
      simp [Style.spelledMembers_cons]
    have hlen : members.length + 1 < (glyphs (st.gap (level + 1)) ++ .char '"' ::
        (glyphs (st.memberText (level + 1) k j) ++
          (glyphs (st.membersAfter level members) ++ rest))).length := by
      have h := st.membersAfter_length level members
      simp only [List.length_append,List.length_cons,glyphs_length]
      omega
    rw [hi]
    generalize hbound : glyphs (st.gap (level + 1)) ++ .char '"' ::
      (glyphs (st.memberText (level + 1) k j) ++
        (glyphs (st.membersAfter level members) ++ rest)) = bound at hlen
    obtain ⟨g,bound,rfl⟩ := List.exists_cons_of_length_pos (Nat.zero_lt_of_lt hlen)
    have hr : Reads (membersFrom (g :: bound) member true b) fault (g :: bound) rest (P []) := by
      rw [membersFrom_cons,← hbound]
      refine (anotherMember_first (st.blank_gap _)).bind ?_
      rintro _ rfl
      refine (hm k j members b _ h (st.membersAfter_ends level members rest)).bind ?_
      intro b' hb'
      exact membersFrom_reads hm (Nat.lt_of_succ_lt_succ hlen) hb' rest
    exact hr.run place

/-- The key of a printed member, up to the colon. -/
theorem memberKey_text (level : Nat) (k : String) (j : Json) (rest : List Glyph) :
    Reads memberKey fault (.char '"' :: (glyphs (st.memberText level k j) ++ rest))
      (.char ':' :: (glyphs st.space ++ (glyphs (st.spelled level j) ++ rest))) (· = k) := by
  have hi : Glyph.char '"' :: (glyphs (st.memberText level k j) ++ rest) =
      .char '"' :: (glyphs (k.toList.flatMap escapeChar) ++ .char '"' ::
        (.char ':' :: (glyphs st.space ++ (glyphs (st.spelled level j) ++ rest)))) := by
    simp [Style.memberText]
  rw [hi]
  exact memberKey_reads k _

end Reader

end BuildFarm.Json
