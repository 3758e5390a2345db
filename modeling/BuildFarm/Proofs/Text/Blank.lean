import BuildFarm.Proofs.Path
import Mathlib.Data.List.TakeWhile

namespace BuildFarm

namespace Text

variable {sep : Char} {cs ds lead trail p : List Char}

/-- Something in the text can be seen. -/
def Seen (cs : List Char) : Prop :=
  ∃ c ∈ cs, isBlank c = false

/-- There is nothing but blanks. -/
def Blank (cs : List Char) : Prop :=
  ∀ c ∈ cs, isBlank c = true

instance : Decidable (Seen cs) :=
  decidable_of_iff (cs.any (fun c => !isBlank c) = true) (by simp [Seen])

instance : Decidable (Blank cs) :=
  decidable_of_iff (cs.all isBlank = true) List.all_eq_true

theorem allBlank_eq_false {s : String} : allBlank s = false ↔ Seen s.toList := by
  simp [allBlank,Seen]

theorem blank_nil : Blank [] :=
  nofun

theorem blank_append : Blank (cs ++ ds) ↔ Blank cs ∧ Blank ds :=
  List.forall_mem_append

/-- No blank stands at an end. -/
structure Bare (cs : List Char) : Prop where
  front : ∀ c, cs.head? = some c → isBlank c = false
  back : ∀ c, cs.getLast? = some c → isBlank c = false

/-- The one text is the other with blanks around it, which it has no more. -/
def Strips (cs ds : List Char) : Prop :=
  Bare ds ∧ ∃ lead trail, Blank lead ∧ Blank trail ∧ cs = lead ++ ds ++ trail

theorem Bare.seen (h : Bare cs) (hc : cs ≠ []) : Seen cs := by
  obtain ⟨c,rest,rfl⟩ := List.exists_cons_of_ne_nil hc
  exact ⟨c,List.mem_cons_self,h.front c rfl⟩

theorem Bare.of_visible (h : ∀ c ∈ cs, isBlank c = false) : Bare cs where
  front c hc := h c (List.mem_of_mem_head? hc)
  back c hc := h c (List.mem_of_mem_getLast? hc)

/-- What is dropped ends where something stands that is not dropped. -/
theorem dropWhile_front {q : α → Bool} {as bs : List α} (ha : ∀ a ∈ as, q a = true)
    (hb : ∀ b, bs.head? = some b → q b = false) : (as ++ bs).dropWhile q = bs := by
  rw [List.dropWhile_append_of_pos ha]
  cases bs with
  | nil => rfl
  | cons b rest => exact List.dropWhile_cons_of_neg (by simp [hb b rfl])

theorem trimEnd_bare (ht : Blank trail) (hb : ∀ c, cs.getLast? = some c → isBlank c = false) :
    trimEnd (cs ++ trail) = cs := by
  rw [trimEnd,List.reverse_append,dropWhile_front (by simpa [Blank] using ht) (by simpa using hb),
    List.reverse_reverse]

theorem trimmed_bare (hl : Blank lead) (ht : Blank trail) (h : Bare cs) :
    trimEnd (trimStart (lead ++ cs ++ trail)) = cs := by
  rw [trimStart,List.append_assoc]
  cases cs with
  | nil =>
    have hnone : (lead ++ trail ++ []).dropWhile isBlank = [] :=
      dropWhile_front (blank_append.mpr ⟨hl,ht⟩) nofun
    rw [List.append_nil] at hnone
    rw [List.nil_append,hnone]
    rfl
  | cons c rest => rw [dropWhile_front hl (by simpa using h.front),trimEnd_bare ht h.back]

theorem trim_bare (hl : Blank lead) (ht : Blank trail) (h : Bare cs) :
    trim (String.ofList (lead ++ cs ++ trail)) = String.ofList cs := by
  rw [trim,String.toList_ofList,trimmed_bare hl ht h]

theorem head_dropWhile {c : Char} (h : (cs.dropWhile isBlank).head? = some c) :
    isBlank c = false := by
  have hn := List.head?_dropWhile_not isBlank cs
  rwa [h] at hn

theorem trimmed_strips (cs : List Char) : Strips cs (trimEnd (trimStart cs)) := by
  have hstart := List.takeWhile_append_dropWhile (p := isBlank) (l := cs)
  have hends : trimEnd (trimStart cs) ++ ((trimStart cs).reverse.takeWhile isBlank).reverse =
      trimStart cs := by
    rw [trimEnd,← List.reverse_append,List.takeWhile_append_dropWhile,List.reverse_reverse]
  refine ⟨⟨?front,?back⟩,cs.takeWhile isBlank,
    ((trimStart cs).reverse.takeWhile isBlank).reverse,?lead,?trail,?whole⟩
  case front =>
    intro c hc
    have hr : (trimStart cs).head? = some c := by
      rw [← hends,List.head?_append,hc]
      rfl
    exact head_dropWhile hr
  case back =>
    intro c hc
    rw [trimEnd,List.getLast?_reverse] at hc
    exact head_dropWhile hc
  case lead => exact fun c hc => List.mem_takeWhile_imp hc
  case trail => exact fun c hc => List.mem_takeWhile_imp (List.mem_reverse.mp hc)
  case whole => rw [List.append_assoc,hends,trimStart,hstart]

theorem strips_iff : Strips cs ds ↔ trimEnd (trimStart cs) = ds := by
  constructor
  · rintro ⟨hbare,lead,trail,hl,ht,rfl⟩
    exact trimmed_bare hl ht hbare
  · rintro rfl
    exact trimmed_strips cs

/-- Blanks around a text are not there once it is trimmed. -/
theorem trimmed_around (hl : Blank lead) (ht : Blank trail) :
    trimEnd (trimStart (lead ++ p ++ trail)) = trimEnd (trimStart p) := by
  obtain ⟨hbare,before,after,hb,ha,hp⟩ := trimmed_strips p
  refine strips_iff.mp ⟨hbare,lead ++ before,after ++ trail,blank_append.mpr ⟨hl,hb⟩,
    blank_append.mpr ⟨ha,ht⟩,?_⟩
  have hwhole := congrArg (lead ++ · ++ trail) hp
  simpa only [List.append_assoc] using hwhole

/-- Nothing is left of blanks alone. -/
theorem trimmed_ne_nil : trimEnd (trimStart cs) ≠ [] ↔ Seen cs := by
  obtain ⟨hbare,before,after,hb,ha,hcs⟩ := trimmed_strips cs
  constructor
  · intro hne
    obtain ⟨c,hc,hs⟩ := hbare.seen hne
    refine ⟨c,?_,hs⟩
    rw [hcs]
    simp [hc]
  · rintro ⟨c,hc,hs⟩ hnil
    rw [hcs,hnil,List.append_nil] at hc
    have hblank := blank_append.mpr ⟨hb,ha⟩ c hc
    rw [hs] at hblank
    cases hblank

/-- A stretch of the text between two separators, or between one and an end. -/
def Piece (sep : Char) (cs p : List Char) : Prop :=
  sep ∉ p ∧ ∃ front back, cs = front ++ p ++ back ∧
    (front = [] ∨ front.getLast? = some sep) ∧ (back = [] ∨ back.head? = some sep)

theorem piece_of_mem (h : p ∈ pieces sep cs) : Piece sep cs p := by
  induction hn : cs.length using Nat.strongRecOn generalizing cs with
  | ind n ih =>
    by_cases hs : sep ∈ cs
    · obtain ⟨before,after,rfl,hb⟩ := List.eq_append_cons_of_mem hs
      rw [pieces_append hb] at h
      rcases List.mem_cons.mp h with rfl | h
      · exact ⟨hb,[],sep :: after,rfl,Or.inl rfl,Or.inr rfl⟩
      · obtain ⟨hp,front,back,rfl,hf,hb⟩ := ih after.length (by simp at hn; omega) h rfl
        refine ⟨hp,before ++ sep :: front,back,by simp,Or.inr ?_,hb⟩
        rcases hf with rfl | hf
        · simp
        · simp [List.getLast?_cons,hf]
    · rw [pieces_plain hs] at h
      obtain rfl := List.mem_singleton.mp h
      exact ⟨hs,[],[],by simp,Or.inl rfl,Or.inl rfl⟩

theorem pieces_front (hp : sep ∉ p) (hb : ds = [] ∨ ds.head? = some sep) :
    p ∈ pieces sep (p ++ ds) := by
  cases ds with
  | nil => simp [pieces_plain hp]
  | cons d rest =>
    obtain rfl : d = sep := by simpa using hb
    simp [pieces_append hp]

theorem mem_pieces : p ∈ pieces sep cs ↔ Piece sep cs p := by
  refine ⟨piece_of_mem,?_⟩
  rintro ⟨hp,front,back,rfl,hf,hb⟩
  rcases hf with rfl | hf
  · exact pieces_front hp hb
  · obtain ⟨before,rfl⟩ := List.getLast?_eq_some_iff.mp hf
    have hjoined : before ++ [sep] ++ p ++ back = before ++ sep :: (p ++ back) := by simp
    rw [hjoined,pieces_joined]
    exact List.mem_append_right _ (pieces_front hp hb)

/-- The pieces of a text, each trimmed. -/
def strippedPieces (sep : Char) (cs : List Char) : List (List Char) :=
  (pieces sep cs).map (fun p => trimEnd (trimStart p))

theorem Blank.free (h : Blank cs) (hs : isBlank sep = false) : sep ∉ cs := by
  intro hm
  rw [h sep hm] at hs
  cases hs

theorem strippedPieces_front (hs : isBlank sep = false) (hl : Blank lead) :
    strippedPieces sep (lead ++ cs) = strippedPieces sep cs := by
  have htrim (p : List Char) : trimEnd (trimStart (lead ++ p)) = trimEnd (trimStart p) := by
    have haround := trimmed_around hl blank_nil (p := p)
    rwa [List.append_nil] at haround
  have hfree {p : List Char} (hp : sep ∉ p) : sep ∉ lead ++ p := by
    simp [hl.free hs,hp]
  unfold strippedPieces
  by_cases hm : sep ∈ cs
  · obtain ⟨before,after,rfl,hb⟩ := List.eq_append_cons_of_mem hm
    rw [← List.append_assoc,pieces_append (hfree hb),pieces_append hb,List.map_cons,List.map_cons,
      htrim]
  · rw [pieces_plain (hfree hm),pieces_plain hm,List.map_singleton,List.map_singleton,htrim]

theorem strippedPieces_back (hs : isBlank sep = false) (ht : Blank trail) :
    strippedPieces sep (cs ++ trail) = strippedPieces sep cs := by
  have htrim (p : List Char) : trimEnd (trimStart (p ++ trail)) = trimEnd (trimStart p) := by
    have haround := trimmed_around blank_nil ht (p := p)
    rwa [List.nil_append] at haround
  have hlast {p : List Char} (hp : sep ∉ p) :
      strippedPieces sep (p ++ trail) = strippedPieces sep p := by
    have hfree : sep ∉ p ++ trail := by simp [ht.free hs,hp]
    rw [strippedPieces,strippedPieces,pieces_plain hfree,pieces_plain hp,List.map_singleton,
      List.map_singleton,htrim]
  by_cases hm : sep ∈ cs.reverse
  · -- The last separator is the first one from behind.
    obtain ⟨after,before,hr,ha⟩ := List.eq_append_cons_of_mem hm
    obtain rfl : cs = before.reverse ++ sep :: after.reverse := by
      simpa using congrArg List.reverse hr
    have hl := hlast (p := after.reverse) (by simpa using ha)
    unfold strippedPieces at hl ⊢
    rw [List.append_assoc,List.cons_append,pieces_joined,pieces_joined,List.map_append,
      List.map_append,hl]
  · exact hlast (by simpa using hm)

/-- Blanks around the whole text come to stand around its first and its last piece. -/
theorem strippedPieces_around (hs : isBlank sep = false) (hl : Blank lead) (ht : Blank trail) :
    strippedPieces sep (lead ++ cs ++ trail) = strippedPieces sep cs := by
  rw [strippedPieces_back hs ht,strippedPieces_front hs hl]

end Text

end BuildFarm
