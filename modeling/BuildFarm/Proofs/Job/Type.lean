import BuildFarm.Job.Type
import BuildFarm.Proofs.Text.Blank
import Mathlib.Data.List.Basic

namespace BuildFarm

namespace JobType

open Text

variable {s kind arch : String} {t u : JobType}

theorem text_toList (t : JobType) : t.text.toList = t.kind.toList ++ ':' :: t.arch.toList := by
  simp [text,String.toList_append]

/-- Both parts can be seen, and the colon is in neither of them. -/
structure Sound (t : JobType) : Prop where
  kind : Seen t.kind.toList
  arch : Seen t.arch.toList
  joined : ':' ∉ t.kind.toList ∧ ':' ∉ t.arch.toList

theorem make_ok : make kind arch = .ok t ↔ t = ⟨kind,arch⟩ ∧ Sound t := by
  unfold make
  split
  · rename_i hb
    refine iff_of_false nofun ?_
    rintro ⟨rfl,hk,ha,_⟩
    rcases hb with hb | hb
    · simp [allBlank_eq_false.mpr hk] at hb
    · simp [allBlank_eq_false.mpr ha] at hb
  · rename_i hb
    rw [not_or,Bool.not_eq_true,Bool.not_eq_true,allBlank_eq_false,allBlank_eq_false] at hb
    split
    · rename_i hc
      refine iff_of_false nofun ?_
      rintro ⟨rfl,_,_,hj⟩
      exact hc.elim hj.1 hj.2
    · rename_i hc
      constructor
      · intro h
        cases h
        exact ⟨rfl,hb.1,hb.2,not_or.mp hc⟩
      · rintro ⟨rfl,_⟩
        rfl

/-- What stands before the first colon is the kind, and all that follows is the architecture. -/
theorem parse_split {before after : List Char} (hs : s.toList = before ++ ':' :: after)
    (hb : ':' ∉ before) : parse s = make (String.ofList before) (String.ofList after) := by
  have hkept : ∀ c ∈ before, decide (c ≠ ':') = true := by
    intro c hc
    exact decide_eq_true fun he => hb (he ▸ hc)
  unfold parse
  dsimp only
  rw [hs,List.dropWhile_append_of_pos hkept,List.takeWhile_append_of_pos hkept]
  simp

theorem colon_of_parse (h : parse s = .ok t) : ':' ∈ s.toList := by
  by_contra hn
  have hnone : s.toList.dropWhile (· ≠ ':') = [] := by
    rw [List.dropWhile_eq_nil_iff]
    intro c hc
    exact decide_eq_true fun he => hn (he ▸ hc)
  unfold parse at h
  dsimp only at h
  rw [hnone] at h
  cases h

/-- The type that a text is read as is the one that is written so. -/
theorem parse_ok : parse s = .ok t ↔ t.text = s ∧ Sound t := by
  constructor
  · intro h
    obtain ⟨before,after,hs,hb⟩ := List.eq_append_cons_of_mem (colon_of_parse h)
    rw [parse_split hs hb] at h
    obtain ⟨rfl,hsound⟩ := make_ok.mp h
    refine ⟨String.toList_injective ?_,hsound⟩
    simp [text_toList,hs]
  · rintro ⟨rfl,hsound⟩
    rw [parse_split (text_toList t) hsound.joined.1,String.ofList_toList,String.ofList_toList]
    exact make_ok.mpr ⟨rfl,hsound⟩

/-- The text has one colon, and something to be seen on each side of it. -/
def Written (s : String) : Prop :=
  s.toList.count ':' = 1 ∧
    ∀ kind arch, s.toList = kind ++ ':' :: arch → Seen kind ∧ Seen arch

theorem not_mem_of_count {before after : List Char}
    (h : (before ++ ':' :: after).count ':' = 1) : ':' ∉ before ∧ ':' ∉ after := by
  rw [List.count_append,List.count_cons_self] at h
  exact ⟨List.count_eq_zero.mp (by omega),List.count_eq_zero.mp (by omega)⟩

theorem Sound.written (h : Sound t) : Written t.text := by
  have hcount : t.text.toList.count ':' = 1 := by
    simp [text_toList,List.count_eq_zero.mpr h.joined.1,List.count_eq_zero.mpr h.joined.2]
  refine ⟨hcount,?_⟩
  intro kind arch hs
  rw [hs] at hcount
  rw [text_toList] at hs
  obtain ⟨rfl,_,rfl⟩ := (List.append_cons_inj_of_notMem h.joined.1 h.joined.2).mp hs
  exact ⟨h.kind,h.arch⟩

theorem Written.sound (h : Written s) : ∃ t, t.text = s ∧ Sound t := by
  have hone := h.1
  have hm : ':' ∈ s.toList := List.count_pos_iff.mp (by omega)
  obtain ⟨before,after,hs⟩ := List.append_of_mem hm
  obtain ⟨hk,ha⟩ := h.2 before after hs
  refine ⟨⟨String.ofList before,String.ofList after⟩,?_,?_⟩
  · apply String.toList_injective
    simp [text_toList,hs]
  · have hc := not_mem_of_count (hs ▸ hone)
    exact ⟨by simpa using hk,by simpa using ha,by simpa using hc⟩

/-- A text is read as a type exactly if it has one colon and something to be seen on each side of
it; and the type is written as that text. A type that can be made of two parts has these parts, is
read back from its text, and is the only one with that text. -/
theorem text_form (s : String) :
    ((∃ t, parse s = .ok t) ↔ Written s) ∧
    (∀ t, parse s = .ok t → t.text = s) ∧
    ∀ kind arch t, make kind arch = .ok t →
      t.kind = kind ∧ t.arch = arch ∧ parse t.text = .ok t ∧
      ∀ kind' arch' u, make kind' arch' = .ok u → u.text = t.text → u = t := by
  refine ⟨⟨?_,?_⟩,fun t h => (parse_ok.mp h).1,?_⟩
  · rintro ⟨t,h⟩
    obtain ⟨rfl,hsound⟩ := parse_ok.mp h
    exact hsound.written
  · intro h
    obtain ⟨t,ht⟩ := h.sound
    exact ⟨t,parse_ok.mpr ht⟩
  · intro kind arch t h
    obtain ⟨ht,hsound⟩ := make_ok.mp h
    have hback := parse_ok.mpr ⟨rfl,hsound⟩
    refine ⟨by rw [ht],by rw [ht],hback,?_⟩
    intro kind' arch' u hu heq
    have hagain := parse_ok.mpr ⟨heq,(make_ok.mp hu).2⟩
    exact Except.ok.inj (hagain.symm.trans hback)

/-- The blanks of a part belong to it. -/
theorem text_form_padded : make " b" "x\u2003" = .ok ⟨" b","x\u2003"⟩ ∧
    parse " b:x\u2003" = .ok ⟨" b","x\u2003"⟩ := by
  obtain ⟨_,_,hmade⟩ := text_form " b:x\u2003"
  have hm : make " b" "x\u2003" = .ok ⟨" b","x\u2003"⟩ := by decide
  obtain ⟨_,_,hback,_⟩ := hmade _ _ _ hm
  exact ⟨hm,hback⟩

end JobType

end BuildFarm
