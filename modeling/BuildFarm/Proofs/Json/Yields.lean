import BuildFarm.Json.Record
import BuildFarm.Proofs.Json.Printed
import BuildFarm.Proofs.Number.Finite
import BuildFarm.Proofs.Table
import Mathlib.Data.String.Basic

namespace BuildFarm.Json

theorem sortedMembers_eq (members : List (String × Json)) :
    sortedMembers members = members.map (fun m => (m.1,sorted m.2)) := by
  induction members with
  | nil => rfl
  | cons m rest ih => rw [sortedMembers,ih,List.map_cons]

mutual

/-- What is sorted stays as it is. -/
theorem sorted_sorted : ∀ j : Json, j.sorted.sorted = j.sorted
  | .null => rfl
  | .bool _ => rfl
  | .int _ => rfl
  | .float _ => rfl
  | .text _ => rfl
  | .array items => congrArg Json.array (sortedItems_sorted items)
  | .object members => by
    have hvalues : ∀ m ∈ Table.ofList (sortedMembers members), (m.1,sorted m.2) = m :=
      fun m hm => congrArg (m.1,·) (sortedMembers_sorted members m (Table.mem_ofList hm))
    have hmembers : sortedMembers (Table.ofList (sortedMembers members)) =
        Table.ofList (sortedMembers members) := by
      rw [sortedMembers_eq,List.map_congr_left hvalues,List.map_id']
    rw [sorted,sorted,hmembers,Table.ofList_ofList]

theorem sortedItems_sorted : ∀ items : List Json,
    sortedItems (sortedItems items) = sortedItems items
  | [] => rfl
  | j :: rest => by
    rw [sortedItems,sortedItems,sorted_sorted j,sortedItems_sorted rest]

theorem sortedMembers_sorted : ∀ members : List (String × Json),
    ∀ m ∈ sortedMembers members, sorted m.2 = m.2
  | [],_,hm => nomatch hm
  | (k,j) :: rest,m,hm => by
    rcases List.mem_cons.mp hm with rfl | hm
    · exact sorted_sorted j
    · exact sortedMembers_sorted rest m hm

end

mutual

theorem sorted_depth : ∀ j : Json, j.sorted.depth ≤ j.depth
  | .null => Nat.le_refl _
  | .bool _ => Nat.le_refl _
  | .int _ => Nat.le_refl _
  | .float _ => Nat.le_refl _
  | .text _ => Nat.le_refl _
  | .array items => Nat.succ_le_succ (sortedItems_depth items)
  | .object members => Nat.succ_le_succ (depthMembers_le.mpr
      (fun m hm => sortedMembers_depth members m (Table.mem_ofList hm)))

theorem sortedItems_depth : ∀ items : List Json, depthItems (sortedItems items) ≤ depthItems items
  | [] => Nat.le_refl _
  | j :: rest => max_le_max (sorted_depth j) (sortedItems_depth rest)

theorem sortedMembers_depth : ∀ members : List (String × Json),
    ∀ m ∈ sortedMembers members, m.2.depth ≤ depthMembers members
  | [],_,hm => nomatch hm
  | (k,j) :: rest,m,hm => by
    rcases List.mem_cons.mp hm with rfl | hm
    · exact Nat.le_trans (sorted_depth j) (Nat.le_max_left _ _)
    · exact Nat.le_trans (sortedMembers_depth rest m hm) (Nat.le_max_right _ _)

end

mutual

theorem sorted_numbers {p : Binary64 → Bool} : ∀ j : Json,
    j.numbers p = true → j.sorted.numbers p = true
  | .null,h => h
  | .bool _,h => h
  | .int _,h => h
  | .float _,h => h
  | .text _,h => h
  | .array items,h => sortedItems_numbers items h
  | .object members,h => numbersMembers_iff.mpr
      (fun m hm => sortedMembers_numbers members h m (Table.mem_ofList hm))

theorem sortedItems_numbers {p : Binary64 → Bool} : ∀ items : List Json,
    numbersItems p items = true → numbersItems p (sortedItems items) = true
  | [],h => h
  | j :: rest,h => by
    obtain ⟨hj,hrest⟩ := Bool.and_eq_true_iff.mp h
    exact Bool.and_eq_true_iff.mpr ⟨sorted_numbers j hj,sortedItems_numbers rest hrest⟩

theorem sortedMembers_numbers {p : Binary64 → Bool} : ∀ members : List (String × Json),
    numbersMembers p members = true → ∀ m ∈ sortedMembers members, m.2.numbers p = true
  | [],_,_,hm => nomatch hm
  | (k,j) :: rest,h,m,hm => by
    obtain ⟨hj,hrest⟩ := Bool.and_eq_true_iff.mp h
    rcases List.mem_cons.mp hm with rfl | hm
    · exact sorted_numbers j hj
    · exact sortedMembers_numbers rest hrest m hm

end

namespace Reader

/-- If the reader makes anything of a text, it is as it should be. -/
def Yields (r : Reader α) (P : α → Prop) : Prop :=
  ∀ c a c', r c = .ok (a,c') → P a

theorem ok_of_bind {r : Reader α} {f : α → Reader β} {c c' : Cursor}
    (h : (r >>= f) c = .ok (b,c')) : ∃ a d, r c = .ok (a,d) ∧ f a d = .ok (b,c') := by
  change Reader.bind r f c = _ at h
  unfold Reader.bind at h
  split at h
  · exact ⟨_,_,‹_›,h⟩
  · cases h

namespace Yields

variable {α β : Type} {P : α → Prop} {Q : β → Prop}

theorem pure (h : P a) : Yields (Pure.pure a) P := by
  rintro _ _ _ ⟨⟩
  exact h

theorem fail (cause : Cause) : Yields (Reader.fail cause) P :=
  nofun

theorem failAhead (cause : Cause) : Yields (Reader.failAhead cause) P :=
  nofun

theorem bind {r : Reader α} {f : α → Reader β} (hr : Yields r P)
    (hf : ∀ a, P a → Yields (f a) Q) : Yields (r >>= f) Q := by
  intro c b c' h
  obtain ⟨a,d,ha,hb⟩ := ok_of_bind h
  exact hf a (hr _ _ _ ha) _ _ _ hb

/-- What is read first does not matter. -/
theorem after {r : Reader α} {f : α → Reader β} (hf : ∀ a, Yields (f a) Q) :
    Yields (r >>= f) Q := by
  intro c b c' h
  obtain ⟨a,d,_,hb⟩ := ok_of_bind h
  exact hf a _ _ _ hb

theorem closing {r : Reader α} (hr : Yields r P) (close : Reader Unit) :
    Yields (Reader.closing close r) P := by
  intro c a c' h
  unfold Reader.closing at h
  split at h
  · cases h
    exact hr _ _ _ ‹_›
  · split at h <;> cases h

end Yields

theorem mismatch_yields {P : α → Prop} (expected : String) : Yields (mismatch expected) P := by
  refine .after fun g => ?_
  split
  · exact .failAhead _
  · exact .after fun _ => .after fun _ => .fail _
  · exact .after fun _ => .after fun _ => .fail _
  · exact .after fun _ => .after fun _ => .fail _
  · exact .after fun _ => .after fun _ => .fail _
  · exact .after fun _ => .after fun _ => .fail _
  · exact .fail _
  · exact .fail _
  · split
    · exact .after fun _ => .fail _
    · exact .failAhead _

theorem parsed_yields {read : String → Except String α} (expected : String) :
    Yields (parsed expected read) (fun a => ∃ s, read s = .ok a) := by
  refine .after fun s => ?_
  cases h : read s with
  | ok a => exact .pure ⟨s,h⟩
  | error m => exact .fail _

theorem elements_yields {element : Reader α} {P : α → Prop} (he : Yields element P) :
    Yields (elements element) (fun read => ∀ a ∈ read, P a) := by
  have hfrom (bound : List Glyph) : ∀ read : List α, (∀ a ∈ read, P a) →
      Yields (elementsFrom bound element read) (fun read => ∀ a ∈ read, P a) := by
    induction bound with
    | nil => exact fun _ _ => nofun
    | cons g bound ih =>
      intro read hread
      rw [elementsFrom_cons]
      refine .after fun more => ?_
      split
      · exact he.bind fun a ha => ih (a :: read) (List.forall_mem_cons.mpr ⟨ha,hread⟩)
      · exact .after fun _ => .pure fun a ha => hread a (List.mem_reverse.mp ha)
  exact fun c => hfrom c.rest [] (List.forall_mem_nil _) c

theorem membersFrom_yields {member : β → Reader β} {I : β → Prop}
    (hm : ∀ b, I b → Yields (member b) I) (bound : List Glyph) (first : Bool) (b : β) (hb : I b) :
    Yields (membersFrom bound member first b) I := by
  induction bound generalizing first b with
  | nil => exact nofun
  | cons g bound ih =>
    rw [membersFrom_cons]
    refine .after fun more => ?_
    split
    · exact (hm b hb).bind fun b' hb' => ih false b' hb'
    · exact .after fun _ => .pure hb

theorem foldMembers_yields {member : β → Reader β} {I : β → Prop}
    (hm : ∀ b, I b → Yields (member b) I) (b : β) (hb : I b) : Yields (foldMembers member b) I :=
  fun c => membersFrom_yields hm c.rest true b hb c

theorem members_yields {member : Reader α} {P : α → Prop} (hm : Yields member P) :
    Yields (members member) (fun read => ∀ m ∈ read, P m.2) := by
  refine Yields.bind (foldMembers_yields (I := fun read => ∀ m ∈ read, P m.2) ?_ []
    (List.forall_mem_nil _)) (fun read hread => .pure fun m hm => hread m (List.mem_reverse.mp hm))
  intro read hread
  refine .after fun k => .after fun _ => hm.bind fun a ha => .pure ?_
  exact List.forall_mem_cons.mpr ⟨ha,hread⟩

theorem absorb_lt {n : Nat} (hn : n < 0x10000000000000000) (ds : List Char) :
    (absorb n ds).1 < 0x10000000000000000 := by
  induction ds generalizing n with
  | nil => exact hn
  | cons d ds ih =>
    unfold absorb
    dsimp only
    split
    · exact ih ‹_›
    · exact hn

theorem scaled_yields (positive : Bool) (n : Nat) (k : Int) :
    Yields (scaled positive n k) (fun m => m.toJson.Genuine) := by
  unfold scaled
  split
  · rename_i x hx
    have hfinite := Binary64.ofDecimal?_finite hx
    cases positive <;> exact .pure hfinite
  · exact .fail _

theorem failBefore_yields (unread : List Char) (cause : Cause) {P : α → Prop} :
    Yields (failBefore unread cause) P :=
  nofun

theorem exponentPart_yields (positive : Bool) (n : Nat) (k : Int) :
    Yields (exponentPart positive n k) (fun m => m.toJson.Genuine) := by
  unfold exponentPart
  refine .after fun sign => ?_
  dsimp only
  -- Past the sign, if there is one, the digits are read.
  split <;> [refine .after fun _ => .after fun g => ?_; refine .after fun g => ?_]
  all_goals
    split
    · exact .fail _
    · split
      · exact .failAhead _
      · refine .after fun ds => ?_
        split
        · exact scaled_yields _ _ _
        · split
          · exact failBefore_yields _ _
          · exact .pure (Binary64.zero_finite _)

theorem int_genuine {n : Int} (hl : least ≤ n) (hg : n ≤ greatest) : Genuine (.int n) :=
  Bool.and_eq_true_iff.mpr ⟨decide_eq_true hl,decide_eq_true hg⟩

/-- What stays whole has room in 64 bits, behind a sign in 63 bits and one number more. -/
theorem fractionPart_yields (positive : Bool) {n : Nat} (hn : n < 0x10000000000000000)
    (dropped : Nat) : Yields (fractionPart positive n dropped) (fun m => m.toJson.Genuine) := by
  unfold fractionPart
  refine .after fun mark => ?_
  split
  · refine .after fun _ => .after fun ds => ?_
    split
    · refine .after fun g => ?_
      split <;> exact .failAhead _
    · refine .after fun mark => ?_
      split
      · exact .after fun _ => exponentPart_yields _ _ _
      · exact scaled_yields _ _ _
  split
  · exact .after fun _ => exponentPart_yields _ _ _
  split
  · exact scaled_yields _ _ _
  split
  · exact .pure (int_genuine (by unfold least; omega) (by unfold greatest; omega))
  split
  · exact scaled_yields _ _ _
  · exact .pure (int_genuine (by unfold least; omega) (by unfold greatest; omega))

theorem numeral_yields (positive : Bool) :
    Yields (numeral positive) (fun m => m.toJson.Genuine) := by
  unfold numeral
  refine .after fun g => ?_
  split
  · exact .fail _
  · split
    · exact .failAhead _
    · refine .after fun _ => .after fun g => ?_
      split
      · exact .failAhead _
      · exact fractionPart_yields positive (by decide) 0
    · refine .after fun ds => ?_
      exact fractionPart_yields positive (absorb_lt (by decide) ds) _

theorem content_step (levels : Nat)
    (h : ∀ n, levels = n + 1 → Yields (content n) (Readable n)) :
    Yields (content levels) (Readable levels) := by
  have number (n : Numeral) (hn : n.toJson.Genuine) : Readable levels n.toJson :=
    ⟨by cases n <;> exact Nat.zero_le _,hn⟩
  unfold content
  refine .after fun g => ?_
  split
  · exact .failAhead _
  · exact .after fun _ => .after fun _ => .pure ⟨Nat.zero_le _,rfl⟩
  · exact .after fun _ => .after fun _ => .pure ⟨Nat.zero_le _,rfl⟩
  · exact .after fun _ => .after fun _ => .pure ⟨Nat.zero_le _,rfl⟩
  · exact .after fun _ => (numeral_yields false).bind fun n hn => .pure (number n hn)
  · exact .after fun _ => .after fun _ => .pure ⟨Nat.zero_le _,rfl⟩
  · cases levels with
    | zero => exact .failAhead _
    | succ n =>
      refine .after fun _ => ((elements_yields (h n rfl)).closing closeList).bind fun js hjs => ?_
      exact .pure ⟨Nat.succ_le_succ (depthItems_le.mpr (fun j hj => (hjs j hj).depth)),
        numbersItems_iff.mpr (fun j hj => (hjs j hj).numbers)⟩
  · cases levels with
    | zero => exact .failAhead _
    | succ n =>
      refine .after fun _ => ((members_yields (h n rfl)).closing _).bind fun ms hms => ?_
      exact .pure ⟨Nat.succ_le_succ (depthMembers_le.mpr (fun m hm => (hms m hm).depth)),
        numbersMembers_iff.mpr (fun m hm => (hms m hm).numbers)⟩
  · split
    · exact (numeral_yields true).bind fun n hn => .pure (number n hn)
    · exact .failAhead _

/-- No more brackets are open than may be. -/
theorem content_yields (levels : Nat) : Yields (content levels) (Readable levels) := by
  induction levels with
  | zero => exact content_step 0 nofun
  | succ n ih =>
    refine content_step (n + 1) ?_
    rintro _ ⟨⟩
    exact ih

theorem value_yields (levels : Nat) :
    Yields (value levels) (fun v => v.depth ≤ levels ∧ v.sorted = v) :=
  (content_yields levels).bind fun j hj =>
    .pure ⟨Nat.le_trans (sorted_depth j) hj.depth,sorted_sorted j⟩

theorem value_readable (levels : Nat) : Yields (value levels) (Readable levels) :=
  (content_yields levels).bind fun j hj =>
    .pure ⟨Nat.le_trans (sorted_depth j) hj.depth,sorted_numbers j hj.numbers⟩

theorem pastBlanks_twice (place : Place) (text : List Glyph) :
    pastBlanks (pastBlanks place text).place (pastBlanks place text).rest =
      pastBlanks place text := by
  induction text generalizing place with
  | nil => rfl
  | cons g rest ih =>
    by_cases hg : isBlank g
    · simp only [pastBlanks,if_pos hg,ih]
    · simp only [pastBlanks,if_neg hg]

/-- Where the next glyph was looked for it is found. -/
theorem next_again {c d : Cursor} (h : next c = .ok (g,d)) : next d = .ok (g,d) := by
  cases h
  change Except.ok ((pastBlanks _ _).rest.head?,pastBlanks _ _) = _
  rw [pastBlanks_twice]

theorem sorted_null {j : Json} (h : j.sorted = .null) : j = .null := by
  cases j <;> first | rfl | cases h

/-- Null alone begins as null does. -/
theorem content_front {c d : Cursor} (hn : next c = .ok (g,d)) (hg : g ≠ some (.char 'n'))
    (h : content levels c = .ok (v,c')) : v ≠ .null := by
  unfold content at h
  obtain ⟨f,e,hf,h⟩ := ok_of_bind h
  rw [hn] at hf
  cases hf
  have of_yields {r : Reader Json} (h : r d = .ok (v,c')) (hr : Yields r (· ≠ .null)) :
      v ≠ .null := hr d v c' h
  have number (n : Numeral) : n.toJson ≠ .null := by
    cases n <;> simp [Numeral.toJson]
  split at h
  · cases h
  · exact absurd rfl hg
  · exact of_yields h (.after fun _ => .after fun _ => .pure (by simp))
  · exact of_yields h (.after fun _ => .after fun _ => .pure (by simp))
  · exact of_yields h (.after fun _ => .after fun n => .pure (number n))
  · exact of_yields h (.after fun _ => .after fun _ => .pure (by simp))
  · split at h
    · cases h
    · exact of_yields h (.after fun _ => .after fun _ => .pure (by simp))
  · split at h
    · cases h
    · exact of_yields h (.after fun _ => .after fun _ => .pure (by simp))
  · split at h
    · exact of_yields h (.after fun n => .pure (number n))
    · cases h

/-- A value that may be missing is missing where there is null. -/
theorem optional_value_yields (levels : Nat) : Yields (Reader.optional (value levels))
    (fun o => ∀ v, o = some v → (v.depth ≤ levels ∧ v.sorted = v) ∧ v ≠ .null) := by
  intro c o c' h
  obtain ⟨g,d,hn,h⟩ := ok_of_bind h
  split at h
  · have hr : Yields (do skip; word ['u','l','l']; return (none : Option Json)) (· = none) :=
      .after fun _ => .after fun _ => .pure rfl
    rintro v rfl
    cases hr _ _ _ h
  · rename_i hg
    obtain ⟨w,e,hw,h⟩ := ok_of_bind h
    cases h
    have hvalue := value_yields levels _ _ _ hw
    obtain ⟨j,f,hj,hw⟩ := ok_of_bind hw
    cases hw
    rintro v ⟨⟩
    refine ⟨hvalue,fun hv => ?_⟩
    exact content_front (next_again hn) (by simpa using hg) hj (sorted_null hv)

theorem optional_yields {r : Reader α} {P : α → Prop} (hr : Yields r P) :
    Yields (Reader.optional r) (fun o => ∀ a, o = some a → P a) := by
  refine .after fun g => ?_
  split
  · exact .after fun _ => .after fun _ => .pure nofun
  · refine hr.bind fun a ha => .pure ?_
    rintro a ⟨⟩
    exact ha

/-- Whatever a field makes of a draft, and whatever stands for it where it is missing, keeps what is
said of drafts. -/
structure FieldYields (levels : Nat) (I : δ → Prop) (f : Field δ) : Prop where
  read : ∀ d, I d → Yields (f.read levels d) I
  absent : ∀ d d', I d → f.absent d = some d' → I d'
  short : ∀ d d', I d → f.short d = some d' → I d'

theorem required_yields {key : String} {get : δ → Option β} {set : β → δ → δ}
    {read : Nat → Reader β} {I : δ → Prop} {P : β → Prop} (hr : Yields (read levels) P)
    (hset : ∀ d v, I d → P v → I (set v d)) :
    FieldYields levels I (Field.required key get set read) where
  read d hd := hr.bind fun v hv => .pure (hset d v hd hv)
  absent _ _ _ ha := by cases ha
  short _ _ _ hs := by cases hs

theorem optional_field_yields {key : String} {get : δ → Option (Option β)}
    {set : Option β → δ → δ} {read : Nat → Reader β} {I : δ → Prop} {P : Option β → Prop}
    (hr : Yields (Reader.optional (read levels)) P) (hnone : P none)
    (hset : ∀ d v, I d → P v → I (set v d)) :
    FieldYields levels I (Field.optional key get set read) where
  read d hd := hr.bind fun v hv => .pure (hset d v hd hv)
  absent d d' hd ha := by
    cases ha
    exact hset d none hd hnone
  short _ _ _ hs := by cases hs

section Record

variable {δ α : Type} {levels : Nat} {I : δ → Prop} {fields : List (Field δ)}

theorem inOrder_yields (h : ∀ f ∈ fields, FieldYields levels I f) (tooShort : Nat → Cause)
    (index : Nat) (d : δ) (hd : I d) : Yields (inOrder levels tooShort index fields d) I := by
  induction fields generalizing index d with
  | nil => exact .after fun _ => .pure hd
  | cons f fields ih =>
    have hf := h f List.mem_cons_self
    have ih := ih (fun g hg => h g (List.mem_cons_of_mem _ hg))
    refine .after fun more => ?_
    split
    · exact (hf.read d hd).bind fun d' hd' => ih (index + 1) d' hd'
    · split
      · rename_i d' hs
        exact ih (index + 1) d' (hf.short d d' hd hs)
      · exact .after fun _ => .fail _

theorem complete_yields (h : ∀ f ∈ fields, FieldYields levels I f) (d : δ) (hd : I d) :
    Yields (complete d fields) I := by
  induction fields generalizing d with
  | nil => exact .pure hd
  | cons f fields ih =>
    have ih := ih (fun g hg => h g (List.mem_cons_of_mem _ hg))
    unfold complete
    split
    · exact ih d hd
    · split
      · rename_i d' ha
        exact ih d' ((h f List.mem_cons_self).absent d d' hd ha)
      · exact .fail _

theorem memberInto_yields (h : ∀ f ∈ fields, FieldYields levels I f) (d : δ) (hd : I d) :
    Yields (memberInto levels fields d) I := by
  refine .after fun k => ?_
  split
  · exact .after fun _ => .after fun _ => .pure hd
  · rename_i f hf
    split
    · exact .after fun _ => .fail _
    · exact .after fun _ => (h f (List.mem_of_find?_eq_some hf)).read d hd

/-- The bracket of the record is one of those that may be open. -/
theorem record_yields {s : Shape δ α} {P : α → Prop} (h : ∀ f ∈ s.fields, FieldYields levels I f)
    (hblank : I s.blank) (hfinish : ∀ d a, I d → s.finish d = some a → P a) :
    Yields (record s (levels + 1)) P := by
  have hdone (d : δ) (hd : I d) : Yields (finished s d) P := by
    unfold finished
    split
    · rename_i a ha
      exact .pure (hfinish d a hd ha)
    · exact .fail _
  refine .after fun g => ?_
  split
  · exact .failAhead _
  · exact Yields.bind (.after fun _ => inOrder_yields h _ 0 s.blank hblank) hdone
  · have hmembers := foldMembers_yields (memberInto_yields h) s.blank hblank
    exact Yields.bind (.after fun _ => hmembers.bind (complete_yields h)) hdone
  · exact mismatch_yields _

end Record

/-- What is made of a whole text is what the reader made of it. -/
theorem Yields.parse {r : Reader α} {P : α → Prop} {text : List Glyph} (hr : Yields r P)
    (h : Json.parse r text = .ok a) : P a := by
  obtain ⟨_,_,hread,_⟩ := parse_eq_ok.mp h
  exact hr _ _ _ hread

end Reader

end BuildFarm.Json
