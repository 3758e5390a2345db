import BuildFarm.Path

namespace BuildFarm

namespace Text

theorem pieces_plain {sep : Char} {cs : List Char} (h : sep ∉ cs) : pieces sep cs = [cs] := by
  induction cs with
  | nil => rfl
  | cons c cs ih =>
    simp only [List.mem_cons,not_or] at h
    simp [pieces,Ne.symm h.1,ih h.2]

theorem pieces_append {sep : Char} {cs : List Char} (h : sep ∉ cs) (rest : List Char) :
    pieces sep (cs ++ sep :: rest) = cs :: pieces sep rest := by
  induction cs with
  | nil => simp [pieces]
  | cons c cs ih =>
    simp only [List.mem_cons,not_or] at h
    simp [pieces,Ne.symm h.1,ih h.2]

theorem pieces_ne_nil (sep : Char) (cs : List Char) : pieces sep cs ≠ [] := by
  cases cs with
  | nil => simp [pieces]
  | cons c cs =>
    simp only [pieces]
    split
    · simp
    · split <;> simp

/-- A separator in between parts the pieces on its two sides. -/
theorem pieces_joined (sep : Char) (cs ds : List Char) :
    pieces sep (cs ++ sep :: ds) = pieces sep cs ++ pieces sep ds := by
  induction cs with
  | nil => simp [pieces]
  | cons c cs ih =>
    by_cases hc : c = sep
    · simp [pieces,hc,ih]
    · obtain ⟨p,ps,hp⟩ := List.exists_cons_of_ne_nil (pieces_ne_nil sep cs)
      simp [pieces,hc,ih,hp]

end Text

namespace Path

open Text

/-- One name of a file. -/
structure Name (name : String) : Prop where
  nonempty : name.toList ≠ []
  slash : '/' ∉ name.toList

theorem names_of_slash {p : Path} {cs ds : List Char} (h : p.toList = cs ++ '/' :: ds) :
    names p = names (String.ofList cs) ++ names (String.ofList ds) := by
  simp [names,h,pieces_joined]

theorem names_one {name : String} (h : Name name) : names name = [name] := by
  simp [names,pieces_plain h.slash,List.filter,h.nonempty]

theorem names_join (folder : Path) {name : String} (h : Name name) :
    names (folder.join name) = names folder ++ [name] := by
  unfold join
  split
  · rename_i hend
    rcases hend with hend | rfl
    · obtain ⟨cs,hcs⟩ := List.getLast?_eq_some_iff.mp hend
      have hjoined : (folder ++ name).toList = cs ++ '/' :: name.toList := by
        simp [String.toList_append,hcs]
      have hnil : names (String.ofList []) = [] := by decide
      rw [names_of_slash hjoined,names_of_slash hcs,hnil,List.append_nil,String.ofList_toList,
        names_one h]
    · rw [String.empty_append,names_one h]
      rfl
  · have hjoined : (folder ++ "/" ++ name).toList = folder.toList ++ '/' :: name.toList := by
      simp [String.toList_append]
    rw [names_of_slash hjoined,String.ofList_toList,String.ofList_toList,names_one h]

end Path

end BuildFarm
