import BuildFarm.Ident

namespace BuildFarm.ArtifactName

/-- One name of a file, neither too long nor made of dots. -/
theorem objection?_none {s : String} : objection? s = none ↔
    s ≠ "" ∧ s.utf8ByteSize ≤ maxBytes ∧ s ≠ "." ∧ s ≠ ".." ∧
      ∀ c ∈ s.toList, isSeparator c = false := by
  unfold objection?
  grind [List.any_eq_true]

theorem ext {n m : ArtifactName} (h : n.text = m.text) : n = m := by
  cases n
  cases m
  cases h
  rfl

theorem separators (n : ArtifactName) : '/' ∉ n.text.toList ∧ '\\' ∉ n.text.toList := by
  obtain ⟨_,_,_,_,hsep⟩ := objection?_none.mp n.valid
  refine ⟨?_,?_⟩ <;> intro hm <;> exact absurd (hsep _ hm) (by decide)

theorem parse_text (n : ArtifactName) : parse n.text = .ok n := by
  unfold parse
  split
  · rfl
  · rename_i h
    rw [n.valid] at h
    cases h

theorem text_of_parse {s : String} (h : parse s = .ok n) : n.text = s := by
  unfold parse at h
  split at h
  · cases h
    rfl
  · cases h

end BuildFarm.ArtifactName
