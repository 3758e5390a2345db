import BuildFarm.Proofs.Path
import BuildFarm.Proofs.Text.Hex
import BuildFarm.Uuid
import Mathlib.Order.Defs.Unbundled

namespace BuildFarm

namespace Text

theorem not_hyphen {width n : Nat} : '-' ∉ hexDigits width n := by
  intro h
  obtain ⟨d,hd,he⟩ := mem_hexDigits h
  have hall : ∀ d : Fin 16, '-' ≠ hexDigit d := by decide
  exact hall ⟨d,hd⟩ he

end Text

namespace Uuid

open Text

theorem mem_grouped {ds : List Char} {c : Char} (h : c ∈ grouped ds) : c = '-' ∨ c ∈ ds := by
  simp only [grouped,List.mem_append,List.mem_cons] at h
  rcases h with (((h | h | h) | h | h) | h | h) | h | h
  · exact Or.inr (List.mem_of_mem_take h)
  · exact Or.inl h
  · exact Or.inr (List.mem_of_mem_drop (List.mem_of_mem_take h))
  · exact Or.inl h
  · exact Or.inr (List.mem_of_mem_drop (List.mem_of_mem_take h))
  · exact Or.inl h
  · exact Or.inr (List.mem_of_mem_drop (List.mem_of_mem_take h))
  · exact Or.inl h
  · exact Or.inr (List.mem_of_mem_drop h)

/-- Digits and hyphens. -/
theorem mem_render {u : Uuid} {c : Char} (h : c ∈ u.render) :
    c = '-' ∨ ∃ d < 16, c = hexDigit d :=
  (mem_grouped h).imp_right mem_hexDigits

theorem not_mem_render {u : Uuid} {c : Char} (hh : c ≠ '-') (hd : ∀ d < 16, c ≠ hexDigit d) :
    c ∉ u.render := by
  intro h
  rcases mem_render h with rfl | ⟨d,hlt,rfl⟩
  · exact hh rfl
  · exact hd d hlt rfl

theorem slash_render (u : Uuid) : '/' ∉ u.render :=
  not_mem_render (by decide) (by decide)

theorem point_render (u : Uuid) : '.' ∉ u.render :=
  not_mem_render (by decide) (by decide)

theorem pieces_grouped {ds : List Char} (h : '-' ∉ ds) :
    pieces '-' (grouped ds) =
      [ds.take 8,(ds.drop 8).take 4,(ds.drop 12).take 4,(ds.drop 16).take 4,ds.drop 20] := by
  have ht (n m : Nat) : '-' ∉ (ds.drop n).take m :=
    fun hm => h (List.mem_of_mem_drop (List.mem_of_mem_take hm))
  have hg : grouped ds = ds.take 8 ++ '-' :: ((ds.drop 8).take 4 ++ '-' :: ((ds.drop 12).take 4 ++
      '-' :: ((ds.drop 16).take 4 ++ '-' :: ds.drop 20))) := by
    simp [grouped]
  rw [hg,pieces_append (fun hm => h (List.mem_of_mem_take hm)),pieces_append (ht 8 4),
    pieces_append (ht 12 4),pieces_append (ht 16 4),
    pieces_plain (fun hm => h (List.mem_of_mem_drop hm))]

theorem flatten_groups (ds : List Char) :
    [ds.take 8,(ds.drop 8).take 4,(ds.drop 12).take 4,(ds.drop 16).take 4,ds.drop 20].flatten =
      ds := by
  have h (n m : Nat) : (ds.drop n).take m ++ ds.drop (n + m) = ds.drop n := by
    rw [← List.drop_drop,List.take_append_drop]
  simp only [List.flatten_cons,List.flatten_nil,List.append_nil]
  rw [h 16 4,h 12 4,h 8 4,List.take_append_drop]

theorem byteLength_of_ascii {cs : List Char} (h : ∀ c ∈ cs, c.utf8Size = 1) :
    byteLength cs = cs.length := by
  induction cs with
  | nil => rfl
  | cons c cs ih =>
    have hc := h c List.mem_cons_self
    have hi := ih (fun c hc => h c (List.mem_cons_of_mem _ hc))
    simp only [byteLength,List.foldr_cons,List.length_cons] at hi ⊢
    omega

theorem render_length (u : Uuid) : u.render.length = 36 := by
  simp [render,grouped,hexDigits_length]

theorem render_bytes (u : Uuid) : byteLength u.render = 36 := by
  rw [byteLength_of_ascii,render_length]
  intro c hc
  rcases mem_render hc with rfl | ⟨d,hd,rfl⟩
  · decide
  · have hall : ∀ d : Fin 16, (hexDigit d).utf8Size = 1 := by decide
    exact hall ⟨d,hd⟩

/-- The written form is read back. -/
theorem parse_text (u : Uuid) : parse u.text = .ok u := by
  have hf : form u.render = ⟨u.render,36,0⟩ := by
    simp [form,render_bytes]
  have hp : pieces '-' u.render = _ := pieces_grouped (not_hyphen (n := u.value.val))
  have hv : hexValue (hexDigits 32 u.value.val) = some u.value.val := by
    have h := hexDigits_value 32 u.value.val 0
    have hm : u.value.val % 16 ^ 32 = u.value.val := Nat.mod_eq_of_lt u.value.isLt
    rw [Nat.zero_mul,Nat.zero_add,hm] at h
    exact h
  have hn : ofNat u.value.val = u := by
    simp [ofNat,Nat.mod_eq_of_lt u.value.isLt]
  simp only [parse,text,String.toList_ofList,hf,hp,flatten_groups,hv]
  simp [hexDigits_length,groupLengths,hn]

theorem text_injective {u v : Uuid} (h : u.text = v.text) : u = v := by
  have hu := parse_text u
  rw [h,parse_text v] at hu
  exact (Except.ok.inj hu).symm

theorem eq_of_value {u v : Uuid} (h : u.value = v.value) : u = v := by
  cases u
  cases v
  exact congrArg Uuid.mk h

instance : IsStrictTotalOrder Uuid (· < ·) where
  irrefl u h := Nat.lt_irrefl u.value.val h
  trans _ _ _ h k := Nat.lt_trans h k
  trichotomous _ _ h k :=
    eq_of_value (Fin.ext (Nat.le_antisymm (Nat.le_of_not_lt k) (Nat.le_of_not_lt h)))

end Uuid

end BuildFarm
