import BuildFarm.Json.Record
import BuildFarm.Proofs.Json.Printed
import BuildFarm.Proofs.Table
import Mathlib.Data.String.Basic

namespace BuildFarm.Json.Reader

open Text

variable {st : Style}

theorem text_printed (level : Nat) (s : String) (rest : List Glyph) :
    glyphs (st.spelled level (.text s)) ++ rest =
      .char '"' :: (glyphs (s.toList.flatMap escapeChar) ++ .char '"' :: rest) := by
  simp [Style.spelled,textLiteral]

theorem textOf_reads (expected : String) (level : Nat) (s : String) (hb : Blank ws) :
    Reads (textOf expected) fault (ws ++ (glyphs (st.spelled level (.text s)) ++ rest)) rest
      (· = s) := by
  rw [text_printed]
  refine Reads.next_bind hb (by decide) ?_
  exact Reads.skip_bind (textRest_reads s rest)

theorem parsed_reads {read : String → Except String α} (expected : String) (level : Nat)
    (s : String) (hb : Blank ws) (hf : ∀ m, read s = .error m → fault) :
    Reads (parsed expected read) fault (ws ++ (glyphs (st.spelled level (.text s)) ++ rest)) rest
      (fun a => read s = .ok a) := by
  refine (textOf_reads expected level s hb).bind ?_
  rintro s rfl
  cases hr : read s with
  | ok a => exact Reads.pure rfl
  | error m => exact Reads.fail (hf m hr) _

theorem bool_reads (level : Nat) (b : Bool) (hb : Blank ws) :
    Reads Reader.bool fault (ws ++ (glyphs (st.spelled level (.bool b)) ++ rest)) rest (· = b) := by
  unfold Reader.bool
  cases b
  · refine Reads.next_bind hb (by decide) (Reads.skip_bind ?_)
    exact (Reads.word ['a','l','s','e']).bind (fun _ _ => Reads.pure rfl)
  · refine Reads.next_bind hb (by decide) (Reads.skip_bind ?_)
    exact (Reads.word ['r','u','e']).bind (fun _ _ => Reads.pure rfl)

/-- Of a fixed choice of words the one that was printed is found. -/
theorem choice_reads {choices : List (String × α)} {s : String} {a : α} (levels level : Nat)
    (hb : Blank ws) (h : Table.find? choices s = some a) :
    Reads (choice levels choices) fault (ws ++ (glyphs (st.spelled level (.text s)) ++ rest)) rest
      (· = a) := by
  have ht : Reads (textOf "variant identifier") fault
      ([] ++ (glyphs (st.spelled level (.text s)) ++ rest)) rest (· = s) :=
    textOf_reads _ level s blank_nil
  rw [List.nil_append,text_printed] at ht
  rw [text_printed]
  refine Reads.next_bind hb (by decide) (ht.bind ?_)
  rintro s rfl
  rw [chosen,h]
  exact Reads.pure rfl

theorem list_reads {element : Nat → Reader α} {items : List Json} {Q : Json → α → Prop}
    (levels level : Nat) (hb : Blank ws)
    (he : ReadsItems st (element levels) fault (level + 1) items Q) :
    Reads (Reader.list (levels + 1) element) fault
      (ws ++ (glyphs (st.spelled level (.array items)) ++ rest)) rest (List.Forall₂ Q items) := by
  rw [st.spelled_array]
  refine Reads.next_bind hb (by decide) ?_
  exact Reads.skip_bind (elements_reads he rest)

/-- Items that each are found again make a list that is found again. -/
theorem mapped_reads {r : Reader α} {toJson : α → Json} (hi : Function.Injective toJson)
    (hr : ∀ a level ws rest, Blank ws →
      Reads r fault (ws ++ (glyphs (st.spelled level (toJson a)) ++ rest)) rest (· = a))
    (as : List α) (levels level : Nat) (hb : Blank ws) :
    Reads (Reader.list (levels + 1) (fun _ => r)) fault
      (ws ++ (glyphs (st.spelled level (.array (as.map toJson))) ++ rest)) rest (· = as) := by
  have hitems : ReadsItems st r fault (level + 1) (as.map toJson) (fun j a => j = toJson a) := by
    intro j hj rest _
    obtain ⟨a,_,rfl⟩ := List.mem_map.mp hj
    exact (hr a (level + 1) [] rest blank_nil).value (fun _ h => h ▸ rfl)
  refine (list_reads levels level hb hitems).value ?_
  intro out hout
  have hsame : as.map toJson = out.map toJson :=
    List.forall₂_eq_eq_eq ▸ List.forall₂_map_right_iff.mpr hout
  exact (List.map_injective_iff.mpr hi hsame).symm

/-- Members whose keys stand in order make a table that is found again. -/
theorem table_reads {member : Nat → Reader α} {toJson : α → Json} (hi : Function.Injective toJson)
    {t : Table String α} (ht : t.Pairwise (fun e f => e.1 < f.1)) (levels level : Nat) (hb : Blank ws)
    (hm : ∀ a rest, Reads (member levels) fault
      (glyphs st.space ++ (glyphs (st.spelled (level + 1) (toJson a)) ++ rest)) rest (· = a)) :
    Reads (Reader.table (levels + 1) member) fault
      (ws ++ (glyphs (st.spelled level (.object (t.map (fun e => (e.1,toJson e.2))))) ++ rest)) rest
      (· = t) := by
  rw [st.spelled_object]
  have hmembers : ∀ m ∈ t.map (fun e => (e.1,toJson e.2)), ∀ rest, Ends rest →
      Reads (member levels) fault
        (glyphs st.space ++ (glyphs (st.spelled (level + 1) m.2) ++ rest)) rest
        (fun a => m.2 = toJson a) := by
    intro m hm' rest _
    obtain ⟨e,_,rfl⟩ := List.mem_map.mp hm'
    exact (hm e.2 rest).value (fun _ h => h ▸ rfl)
  refine Reads.next_bind hb (by decide) (Reads.skip_bind
    ((members_reads (Q := fun j a => j = toJson a) hmembers rest).bind ?_))
  intro out hout
  have hpairs : Function.Injective (fun e : String × α => (e.1,toJson e.2)) := by
    rintro ⟨_,_⟩ ⟨_,_⟩ h
    obtain ⟨rfl,h⟩ := Prod.mk.inj h
    exact congrArg _ (hi h)
  have hsame : t.map (fun e => (e.1,toJson e.2)) = out.map (fun e => (e.1,toJson e.2)) := by
    refine List.forall₂_eq_eq_eq ▸ List.forall₂_map_right_iff.mpr (hout.imp ?_)
    rintro ⟨_,_⟩ ⟨_,_⟩ ⟨rfl,rfl⟩
    rfl
  rw [← List.map_injective_iff.mpr hpairs hsame,Table.ofList_of_pairwise ht]
  exact Reads.pure rfl

theorem forall₂_keys {R : κ × α → κ × β → Prop} {es : List (κ × α)} {vs : List (κ × β)}
    (h : List.Forall₂ R es vs) (hk : ∀ e v, R e v → v.1 = e.1) :
    vs.map Prod.fst = es.map Prod.fst := by
  refine List.forall₂_eq_eq_eq ▸ ?_
  rw [List.forall₂_map_left_iff,List.forall₂_map_right_iff]
  exact h.flip.imp (fun v e hr => hk e v hr)

/-- Entries under keys that all differ are read one by one, in the order of their printing. -/
theorem entries_reads [DecidableEq κ] {key : String → Except ε κ} {keyText : κ → String}
    (hkey : ∀ k, key (keyText k) = .ok k) {member : Nat → Reader α} {Q : Json → α → Prop}
    {es : List (κ × Json)} (hd : (es.map Prod.fst).Nodup) (levels level : Nat) (hb : Blank ws)
    (hm : ∀ e ∈ es, ∀ rest, Ends rest → Reads (member levels) fault
      (glyphs st.space ++ (glyphs (st.spelled (level + 1) e.2) ++ rest)) rest (Q e.2)) :
    Reads (Reader.entries (levels + 1) key member) fault
      (ws ++ (glyphs (st.spelled level (.object (es.map (fun e => (keyText e.1,e.2))))) ++ rest))
      rest (List.Forall₂ (fun e v => v.1 = e.1 ∧ Q e.2 v.2) es) := by
  rw [st.spelled_object]
  refine Reads.next_bind hb (by decide) (Reads.skip_bind ?_)
  refine (foldMembers_reads (P := fun more read => ∃ before after, before ++ after = es ∧
    List.Forall₂ (fun e v => v.1 = e.1 ∧ Q e.2 v.2) before read ∧
    more = after.map (fun e => (keyText e.1,e.2))) ?_ ⟨[],es,rfl,.nil,rfl⟩ rest).value ?_
  · rintro _ _ more read rest ⟨before,_ | ⟨⟨k,j⟩,after⟩,hes,hread,hmore⟩ hr
    · cases hmore
    cases hmore
    refine (memberKey_text (level + 1) (keyText k) j rest).bind ?_
    rintro _ rfl
    rw [hkey]
    refine (colon_reads _).bind ?_
    intro _ _
    have hmem : (k,j) ∈ es := hes ▸ List.mem_append_right _ List.mem_cons_self
    refine (hm _ hmem rest hr).bind ?_
    intro v hv
    have hkeys := forall₂_keys hread (fun _ _ h => h.1)
    have hnew : k ∉ read.map Prod.fst := by
      rw [← hes,List.map_append,List.map_cons] at hd
      exact fun hk => (List.nodup_append.mp hd).2.2 k (hkeys ▸ hk) k List.mem_cons_self rfl
    rw [Entries.set_new v hnew]
    exact Reads.pure ⟨before ++ [(k,j)],after,by rw [← hes,List.append_assoc,List.singleton_append],
      List.rel_append hread (.cons ⟨rfl,hv⟩ .nil),rfl⟩
  · rintro read ⟨before,after,hes,hread,hnone⟩
    rw [List.map_eq_nil_iff.mp hnone.symm,List.append_nil] at hes
    exact hes ▸ hread

/-- A value that may be missing is missing where null was printed. -/
theorem optional_reads {r : Reader α} {Q : α → Prop} (level : Nat) (j : Json) (hb : Blank ws)
    (h : j ≠ .null → Reads r fault (glyphs (st.spelled level j) ++ rest) rest Q) :
    Reads (Reader.optional r) fault (ws ++ (glyphs (st.spelled level j) ++ rest)) rest
      (fun o => (j = .null ∧ o = none) ∨ j ≠ .null ∧ ∃ a, o = some a ∧ Q a) := by
  obtain ⟨c,cs,hc,hblank,_,hnull⟩ := st.spelled_front level j
  unfold Reader.optional
  by_cases hj : j = .null
  · subst hj
    refine Reads.next_bind hb (by decide) (Reads.skip_bind ?_)
    exact (Reads.word ['u','l','l']).bind (fun _ _ => Reads.pure (Or.inl ⟨rfl,rfl⟩))
  · have hr := h hj
    rw [hc] at hr ⊢
    refine Reads.next_bind hb hblank ?_
    split
    · rename_i he
      cases he
      exact absurd (hnull rfl) hj
    · refine hr.bind ?_
      intro a ha
      exact Reads.pure (Or.inr ⟨hj,a,rfl,ha⟩)

theorem text_reads (s : String) (level : Nat) (rest : List Glyph) :
    Reads Reader.text fault (glyphs st.space ++ (glyphs (st.spelled level (.text s)) ++ rest)) rest
      (· = s) :=
  textOf_reads "a string" level s st.blank_space

theorem optionalText_reads (s : String) (level : Nat) (rest : List Glyph) :
    Reads (Reader.optional Reader.text) fault
      (glyphs st.space ++ (glyphs (st.spelled level (.text s)) ++ rest)) rest (· = some s) := by
  have htext : Reads Reader.text fault ([] ++ (glyphs (st.spelled level (.text s)) ++ rest)) rest
      (· = s) := textOf_reads "a string" level s blank_nil
  refine (optional_reads level (.text s) st.blank_space (fun _ => htext)).value ?_
  rintro o (⟨hn,_⟩ | ⟨_,_,rfl,rfl⟩)
  · cases hn
  · rfl

/-- Members that fill a draft one after another: each names a field that is not set yet, and the field
takes it; or it names none, and is passed over. `Q` says what the draft is at the end. -/
inductive Fills (st : Style) (fields : List (Field δ)) (levels level : Nat) (fault : Prop)
    (Q : δ → Prop) :
    List (String × Json) → δ → Prop
  | full (h : Q d) : Fills st fields levels level fault Q [] d
  | member {f : Field δ} {P : δ → Prop} (found : fields.find? (fun f => f.key = k) = some f)
      (unset : f.isSet d = false)
      (taken : ∀ rest, Ends rest → Reads (f.read levels d) fault
        (glyphs st.space ++ (glyphs (st.spelled level j) ++ rest)) rest P)
      (after : ∀ d, P d → Fills st fields levels level fault Q more d) :
      Fills st fields levels level fault Q ((k,j) :: more) d
  | unknown (unnamed : fields.find? (fun f => f.key = k) = none)
      (passed : ∀ rest, Ends rest → Reads skipValue fault
        (glyphs st.space ++ (glyphs (st.spelled level j) ++ rest)) rest (fun _ => True))
      (after : Fills st fields levels level fault Q more d) :
      Fills st fields levels level fault Q ((k,j) :: more) d

theorem memberInto_fills {fields : List (Field δ)} {Q : δ → Prop} :
    ReadsMembers st (memberInto levels fields) fault (level + 1)
      (Fills st fields levels (level + 1) fault Q) := by
  intro k j more d rest h hr
  cases h with
  | member found unset taken after =>
    refine (memberKey_text (level + 1) k j rest).bind ?_
    rintro k rfl
    rw [found]
    dsimp only
    rw [unset,if_neg Bool.false_ne_true]
    refine (colon_reads _).bind ?_
    intro _ _
    exact (taken rest hr).value after
  | unknown unnamed passed after =>
    refine (memberKey_text (level + 1) k j rest).bind ?_
    rintro k rfl
    rw [unnamed]
    refine (colon_reads _).bind (fun _ _ => (passed rest hr).bind ?_)
    exact fun _ _ => Reads.pure after

/-- The draft with what stands for the fields that are not set. -/
def completed (d : δ) : List (Field δ) → Option δ
  | [] => some d
  | f :: fs => if f.isSet d then completed d fs else (f.absent d).bind (completed · fs)

theorem complete_completed {fields : List (Field δ)} {d e : δ}
    (h : completed d fields = some e) : complete d fields = Reader.pure e := by
  induction fields generalizing d with
  | nil =>
    cases h
    rfl
  | cons f fields ih =>
    rw [completed] at h
    rw [complete]
    split at h
    · rename_i hf
      rw [if_pos hf]
      exact ih h
    · rename_i hf
      rw [if_neg hf]
      obtain ⟨d',ha,h⟩ := Option.bind_eq_some_iff.mp h
      rw [ha]
      exact ih h

/-- A draft that makes a record when it is completed. -/
def Makes (s : Shape δ α) (R : α → Prop) (d : δ) : Prop :=
  ∃ e a, completed d s.fields = some e ∧ s.finish e = some a ∧ R a

/-- A record that is printed with a member for each field that must be there is taken up to its
end. -/
theorem record_fills {s : Shape δ α} {members : List (String × Json)} {R : α → Prop}
    (h : Fills st s.fields levels (level + 1) fault (Makes s R) members s.blank) (hb : Blank ws) :
    Reads (record s (levels + 1)) fault
      (ws ++ (glyphs (st.spelled level (.object members)) ++ rest)) rest R := by
  have hmembers : Reads (inAnyOrder levels s.fields s.blank) fault
      (glyphs (if members = [] then ['}'] else st.spelledMembers level members) ++ rest) rest
      (fun e => ∃ a, s.finish e = some a ∧ R a) := by
    refine (foldMembers_reads memberInto_fills h rest).bind ?_
    intro d hd
    cases hd with
    | full hd =>
      obtain ⟨e,a,he,ha,hr⟩ := hd
      rw [complete_completed he]
      exact Reads.pure ⟨a,ha,hr⟩
  rw [st.spelled_object]
  refine Reads.next_bind hb (by decide) (Reads.bind (Reads.skip_bind hmembers) ?_)
  rintro e ⟨a,ha,hr⟩
  rw [finished,ha]
  exact Reads.pure hr

theorem required_taken {key : String} {get : δ → Option β} {set : β → δ → δ}
    {read : Nat → Reader β} {Q : β → Prop}
    (hr : ∀ rest, Ends rest → Reads (read levels) fault
      (glyphs st.space ++ (glyphs (st.spelled level j) ++ rest)) rest Q) (d : δ)
    (rest : List Glyph) (he : Ends rest) :
    Reads ((Field.required key get set read).read levels d) fault
      (glyphs st.space ++ (glyphs (st.spelled level j) ++ rest)) rest
      (fun e => ∃ v, Q v ∧ e = set v d) :=
  (hr rest he).bind (fun v hv => Reads.pure ⟨v,hv,rfl⟩)

theorem defaulted_taken {key : String} {get : δ → Option β} {set : β → δ → δ} {value : β}
    {read : Nat → Reader β} {Q : β → Prop}
    (hr : ∀ rest, Ends rest → Reads (read levels) fault
      (glyphs st.space ++ (glyphs (st.spelled level j) ++ rest)) rest Q) (d : δ)
    (rest : List Glyph) (he : Ends rest) :
    Reads ((Field.defaulted key get set value read).read levels d) fault
      (glyphs st.space ++ (glyphs (st.spelled level j) ++ rest)) rest
      (fun e => ∃ v, Q v ∧ e = set v d) :=
  (hr rest he).bind (fun v hv => Reads.pure ⟨v,hv,rfl⟩)

/-- Null stands for nothing. -/
theorem optional_taken {key : String} {get : δ → Option (Option β)} {set : Option β → δ → δ}
    {read : Nat → Reader β} {Q : Option β → Prop} (hnull : j = .null → Q none)
    (hr : j ≠ .null → ∀ rest, Ends rest → Reads (read levels) fault
      (glyphs (st.spelled level j) ++ rest) rest (fun v => Q (some v))) (d : δ)
    (rest : List Glyph) (he : Ends rest) :
    Reads ((Field.optional key get set read).read levels d) fault
      (glyphs st.space ++ (glyphs (st.spelled level j) ++ rest)) rest
      (fun e => ∃ o, Q o ∧ e = set o d) := by
  refine (optional_reads level j st.blank_space (fun hj => hr hj rest he)).bind ?_
  rintro o (⟨hj,rfl⟩ | ⟨_,v,rfl,hv⟩)
  · exact Reads.pure ⟨none,hnull hj,rfl⟩
  · exact Reads.pure ⟨some v,hv,rfl⟩

/-- A compact text is read as what it was made of. -/
theorem parse_compactText {r : Reader α} {j : Json} {P : α → Prop}
    (h : Reads r False ([] ++ (glyphs (Style.tight.spelled 0 j) ++ [])) [] P) :
    ∃ a, Json.parse r (Glyph.ofBytes (Bytes.ofText j.compactText)) = .ok a ∧ P a := by
  rw [List.nil_append,List.append_nil,Style.spelled_tight] at h
  rw [compactText,ofBytes_ofText]
  exact h.parse_ok

theorem parse_text (s : String) :
    Json.parse text (Glyph.ofBytes (Bytes.ofText (Json.text s).compactText)) = .ok s := by
  obtain ⟨a,ha,rfl⟩ := parse_compactText (textOf_reads "a string" 0 s blank_nil)
  exact ha

end BuildFarm.Json.Reader
