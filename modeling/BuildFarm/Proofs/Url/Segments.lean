import BuildFarm.Proofs.Path
import BuildFarm.Proofs.Text.Percent
import BuildFarm.Url

namespace BuildFarm.Url

open Text

theorem hexValue?_ascii {c : Char} (h : (hexValue? c).isSome) : c.toNat < 128 := by
  unfold hexValue? at h
  simp only [Char.le_def,UInt32.le_iff_toNat_le] at h
  split at h
  · rename_i hr
    exact Nat.lt_of_le_of_lt hr.2 (by decide)
  · split at h
    · rename_i hr
      exact Nat.lt_of_le_of_lt hr.2 (by decide)
    · split at h
      · rename_i hr
        exact Nat.lt_of_le_of_lt hr.2 (by decide)
      · cases h

theorem keeps_inPath : Percent.Keeps inPath where
  ascii c h := by
    refine Nat.lt_of_not_le (fun hc => ?_)
    have hcontrol : isControl c = true := by
      simp only [isControl,Bool.or_eq_true,decide_eq_true_eq]
      omega
    simp [inPath,inFragment,hcontrol] at h
  percent := by decide
  digit c h := by
    have hall : ∀ n : Fin 128, (hexValue? (Char.ofNat n.val)).isSome →
        inPath (Char.ofNat n.val) = false := by decide
    have hc := hall ⟨c.toNat,hexValue?_ascii h⟩
    rw [Char.ofNat_toNat] at hc
    exact hc h

theorem unescapedDots_plain {s : List Char} (h : ¬Percent.HasEscape s) : unescapedDots s = s := by
  fun_induction unescapedDots s with
  | case1 e rest he ih =>
    refine absurd ?_ h
    rw [Percent.hasEscape_cons]
    refine Or.inl ⟨rfl,'2',e,rest,rfl,by decide,?_⟩
    rcases he with rfl | rfl <;> decide
  | case2 => rfl
  | case3 c rest _ ih =>
    rw [ih (fun hr => h (Percent.hasEscape_cons.mpr (Or.inr hr)))]
  | case4 => rfl

/-- Nothing in the segment is escaped, followed, read as an escape or taken for a slash. -/
def Steady (s : List Char) : Prop :=
  ∀ c ∈ s, inPath c = false ∧ c ∉ ['.','%','/','\\']

instance (s : List Char) : Decidable (Steady s) :=
  List.decidableBAll _ s

theorem Steady.hasEscape {s : List Char} (h : Steady s) : ¬Percent.HasEscape s := by
  rintro ⟨x,y,hin,_⟩
  exact (h '%' (hin.subset List.mem_cons_self)).2 (by simp)

theorem Steady.encode {s : List Char} (h : Steady s) : Percent.encode inPath s = s :=
  Percent.encode_plain (fun c hc => (h c hc).1)

theorem Steady.not_dots {s : List Char} (h : Steady s) :
    unescapedDots s ≠ ['.'] ∧ unescapedDots s ≠ ['.','.'] := by
  rw [unescapedDots_plain h.hasEscape]
  refine ⟨?_,?_⟩ <;> rintro rfl <;> exact (h '.' List.mem_cons_self).2 (by simp)

theorem Steady.slashes {s : List Char} (h : Steady s) : '/' ∉ s ∧ '\\' ∉ s :=
  ⟨fun hm => (h _ hm).2 (by simp),fun hm => (h _ hm).2 (by simp)⟩

/-- Such characters neither are blanks nor end a path. -/
theorem visible_of_inPath {c : Char} (h : inPath c = false) :
    0x20 < c.toNat ∧ c ≠ '?' ∧ c ≠ '#' := by
  refine ⟨?_,?_,?_⟩
  · refine Nat.lt_of_not_le (fun hle => ?_)
    rcases Nat.lt_or_eq_of_le hle with hlt | heq
    · simp [inPath,inFragment,isControl,hlt] at h
    · have hc : c = ' ' := Char.ext (UInt32.toNat_inj.mp heq)
      simp [inPath,inFragment,hc] at h
  · rintro rfl
    exact absurd h (by decide)
  · rintro rfl
    exact absurd h (by decide)

/-- What is escaped in a path may stand there. -/
theorem mem_encode {c : Char} {cs : List Char} (h : c ∈ Percent.encode inPath cs) :
    c ≠ '?' ∧ c ≠ '#' ∧ (c = '/' → '/' ∈ cs) := by
  obtain ⟨d,hd,hc⟩ := List.mem_flatMap.mp h
  split at hc
  · obtain ⟨b,_,hb⟩ := List.mem_flatMap.mp hc
    have hdigit : ∀ d : Fin 16,
        upperHexDigit d ≠ '?' ∧ upperHexDigit d ≠ '#' ∧ upperHexDigit d ≠ '/' := by decide
    have hno : c ≠ '?' ∧ c ≠ '#' ∧ c ≠ '/' := by
      have hlt := b.toNat_lt
      simp only [Percent.escape,List.mem_cons,List.not_mem_nil,or_false] at hb
      rcases hb with rfl | rfl | rfl
      · decide
      · exact hdigit ⟨b.toNat / 16,by omega⟩
      · exact hdigit ⟨b.toNat % 16,by omega⟩
    exact ⟨hno.1,hno.2.1,fun hs => absurd hs hno.2.2⟩
  · rename_i hin
    obtain rfl := List.mem_singleton.mp hc
    obtain ⟨_,hq,hf⟩ := visible_of_inPath (by simpa using hin)
    exact ⟨hq,hf,fun hs => hs ▸ hd⟩

theorem settled_steady {segs : List (List Char)} (h : ∀ s ∈ segs, Steady s)
    (kept rest : List (List Char)) :
    settled false kept (segs ++ rest) = settled false (segs.reverse ++ kept) rest := by
  induction segs generalizing kept with
  | nil => rfl
  | cons s segs ih =>
    have hs := h s List.mem_cons_self
    have ih := ih (fun t ht => h t (List.mem_cons_of_mem _ ht)) (s :: kept)
    rw [List.cons_append,settled]
    simp only [hs.not_dots,or_self,and_false,if_false,segment,Bool.false_and,Bool.false_eq_true,
      false_and,hs.encode]
    rw [ih,List.reverse_cons,List.append_assoc]
    rfl

/-- The last segment: nothing, a step up, or a name. -/
theorem settled_last (kept : List (List Char)) (s : List Char) : settled false kept [s] =
    if unescapedDots s = ['.'] then kept.reverse ++ [[]]
    else if unescapedDots s = ['.','.'] then
      (if kept.head?.any holdsDrive then kept else kept.drop 1).reverse ++ [[]]
    else kept.reverse ++ [Percent.encode inPath s] := by
  rw [settled]
  by_cases h : unescapedDots s = ['.']
  · simp [h]
  · by_cases h' : unescapedDots s = ['.','.']
    · simp [h']
    · simp [h,h',settled,segment]

theorem mem_segmentText {c : Char} {segs : List (List Char)} (h : c ∈ segmentText segs) :
    c = '/' ∨ ∃ s ∈ segs, c ∈ s := by
  obtain ⟨s,hs,hc⟩ := List.mem_flatMap.mp h
  rcases List.mem_cons.mp hc with rfl | hc
  · exact Or.inl rfl
  · exact Or.inr ⟨s,hs,hc⟩

/-- Plain segments neither hold blanks nor end a path. -/
theorem visible_steady {segs : List (List Char)} (h : ∀ s ∈ segs, Steady s) :
    ∀ c ∈ segmentText segs, 0x20 < c.toNat ∧ c ≠ '?' ∧ c ≠ '#' := by
  intro c hc
  rcases mem_segmentText hc with rfl | ⟨s,hs,hc⟩
  · decide
  · exact visible_of_inPath (h s hs c hc).1

theorem segmentText_append (segs : List (List Char)) (last : List Char) :
    segmentText (segs ++ [last]) = segmentText segs ++ '/' :: last := by
  simp [segmentText]

theorem pieces_segmentText {segs : List (List Char)} (h : ∀ s ∈ segs, '/' ∉ s) :
    pieces '/' (segmentText segs) = [] :: segs := by
  induction segs with
  | nil => rfl
  | cons s segs ih =>
    have hs := h s List.mem_cons_self
    have ih := ih (fun t ht => h t (List.mem_cons_of_mem _ ht))
    have htext : segmentText (s :: segs) = '/' :: (s ++ segmentText segs) := by
      simp [segmentText]
    have hpieces : pieces '/' (s ++ segmentText segs) = s :: segs := by
      cases segs with
      | nil => simp [segmentText,pieces_plain hs]
      | cons t segs =>
        have ht : segmentText (t :: segs) = '/' :: (t ++ segmentText segs) := by
          simp [segmentText]
        rw [ht] at ih ⊢
        rw [pieces_append hs]
        simpa [pieces] using ih
    rw [htext]
    simp [pieces,hpieces]

/-- The path of segments that hold neither slashes nor backslashes. -/
theorem pathOf_segmentText {first : List Char} {segs : List (List Char)}
    (h : ∀ s ∈ first :: segs, '/' ∉ s ∧ '\\' ∉ s) :
    pathOf true (segmentText (first :: segs)) = segmentText (settled false [] (first :: segs)) := by
  have hmap : (segmentText (first :: segs)).map (fun c => if c = '\\' then '/' else c) =
      segmentText (first :: segs) := by
    refine (List.map_congr_left ?_).trans (List.map_id _)
    intro c hc
    refine if_neg ?_
    rintro rfl
    rcases mem_segmentText hc with hc | ⟨s,hs,hc⟩
    · cases hc
    · exact (h s hs).2 hc
  have hpieces := pieces_segmentText (fun s hs => (h s hs).1)
  have hfront : segmentText (first :: segs) = '/' :: (segmentText (first :: segs)).drop 1 := by
    simp [segmentText]
  rw [hfront] at hpieces
  simp only [pieces,if_true,List.cons.injEq,true_and] at hpieces
  rw [pathOf,segments,if_pos rfl,List.map_drop,hmap,hpieces]

end BuildFarm.Url
