import BuildFarm.Proofs.Disk.Renaming
import BuildFarm.Proofs.Store.Mirror
import Mathlib.GroupTheory.Perm.ViaEmbedding

namespace BuildFarm

theorem Uuid.byteLength_eq (cs : List Char) : byteLength cs = (String.ofList cs).utf8ByteSize := by
  induction cs with
  | nil => rfl
  | cons c cs ih =>
    rw [String.ofList_cons,String.utf8ByteSize_append,String.utf8ByteSize_singleton,← ih]
    rfl

namespace JobId

theorem text_size (i : JobId) : i.text.utf8ByteSize = 36 :=
  (Uuid.byteLength_eq _).symm.trans i.uuid.render_bytes

theorem own_text (i : JobId) : Disk.Own i.text := by
  have ht : i.text.toList = i.uuid.render := String.toList_ofList
  refine Disk.own_of_long ?_ ?_
  · rw [ht,Uuid.render_length]
    decide
  · rw [ht]
    exact Uuid.slash_render _

theorem text_injective {i j : JobId} (h : i.text = j.text) : i = j := by
  cases i
  cases j
  exact congrArg JobId.mk (Uuid.text_injective h)

end JobId

/-- What is named after a job. -/
inductive Keepsake
  | folder
  | record
  | temporary

namespace Keepsake

def lead : Keepsake → String
  | .folder => ""
  | .record => ""
  | .temporary => "."

def tail : Keepsake → String
  | .folder => ""
  | .record => ".json"
  | .temporary => ".json.tmp"

def name (k : Keepsake) (i : JobId) : String :=
  k.lead ++ i.text ++ k.tail

theorem name_folder (i : JobId) : folder.name i = i.text := by
  simp [name,lead,tail]

theorem name_record (i : JobId) : record.name i = Store.recordName i := by
  simp [name,lead,tail,Store.recordName,toString]

theorem name_temporary (i : JobId) : temporary.name i = Store.tempName i := by
  simp [name,lead,tail,Store.tempName,toString]

theorem name_size (k : Keepsake) (i : JobId) :
    (k.name i).utf8ByteSize = k.lead.utf8ByteSize + 36 + k.tail.utf8ByteSize := by
  rw [name,String.utf8ByteSize_append,String.utf8ByteSize_append,i.text_size]

/-- The lengths tell the names apart. -/
theorem name_injective : Function.Injective (fun p : Keepsake × JobId => p.1.name p.2) := by
  rintro ⟨k,i⟩ ⟨l,j⟩ h
  dsimp only at h
  have hsize := congrArg String.utf8ByteSize h
  rw [name_size,name_size] at hsize
  have hk : k = l := by
    cases k <;> cases l <;> first | rfl | exact absurd hsize (by decide)
  subst hk
  obtain rfl := JobId.text_injective ((String.append_right_inj _).mp ((String.append_left_inj _).mp h))
  rfl

theorem own_name (k : Keepsake) (i : JobId) : Disk.Own (k.name i) := by
  cases k with
  | folder => exact name_folder i ▸ i.own_text
  | record => exact name_record i ▸ Store.own_recordName i
  | temporary => exact name_temporary i ▸ Store.own_tempName i

theorem name_zeros (k : Keepsake) (i : JobId) : (k.name i).toList.any (·.toNat = 0) = false := by
  have ht : i.text.toList.any (·.toNat = 0) = false := by
    have hrender : i.text.toList = i.uuid.render := String.toList_ofList
    rw [hrender,List.any_eq_false]
    intro c hc
    rcases Uuid.mem_render hc with rfl | ⟨d,hd,rfl⟩
    · decide
    · have hall : ∀ d : Fin 16, ¬decide ((Text.hexDigit d).toNat = 0) = true := by decide
      exact hall ⟨d,hd⟩
  rw [name,String.toList_append,String.toList_append,List.any_append,List.any_append,ht]
  cases k <;> decide

end Keepsake

/-- The names of what is kept for the jobs, exchanged like their ids. -/
noncomputable def exchangeNames (ρ : Equiv.Perm JobId) : Equiv.Perm String :=
  Equiv.Perm.viaEmbedding ((Equiv.refl Keepsake).prodCongr ρ) ⟨_,Keepsake.name_injective⟩

section

variable (ρ : Equiv.Perm JobId)

theorem exchangeNames_name (k : Keepsake) (i : JobId) :
    exchangeNames ρ (k.name i) = k.name (ρ i) :=
  Equiv.Perm.viaEmbedding_apply ((Equiv.refl Keepsake).prodCongr ρ) ⟨_,Keepsake.name_injective⟩ (k,i)

/-- What is named after no job keeps its name, and what is named after one whose id stays. -/
theorem exchangeNames_kept {c : String} (h : ∀ k i, c = Keepsake.name k i → ρ i = i) :
    exchangeNames ρ c = c := by
  by_cases hc : ∃ k i, c = Keepsake.name k i
  · obtain ⟨k,i,rfl⟩ := hc
    rw [exchangeNames_name,h k i rfl]
  · refine Equiv.Perm.viaEmbedding_apply_of_notMem _ _ _ ?_
    rintro ⟨⟨k,i⟩,rfl⟩
    exact hc ⟨k,i,rfl⟩

theorem exchangeNames_cases (c : String) :
    exchangeNames ρ c = c ∨ ∃ k i, c = Keepsake.name k i ∧ exchangeNames ρ c = k.name (ρ i) := by
  by_cases hc : ∃ k i, c = Keepsake.name k i
  · obtain ⟨k,i,rfl⟩ := hc
    exact Or.inr ⟨k,i,rfl,exchangeNames_name ρ k i⟩
  · exact Or.inl (exchangeNames_kept ρ fun k i he => absurd ⟨k,i,he⟩ hc)

/-- The names are exchanged in some folders. -/
noncomputable def renamingIn (places : List (List String)) : Disk.Renaming where
  exchange := exchangeNames ρ
  places := places
  dot := exchangeNames_kept ρ fun k i he => absurd he.symm (k.own_name i).dot
  dots := exchangeNames_kept ρ fun k i he => absurd he.symm (k.own_name i).dots
  size c := by
    rcases exchangeNames_cases ρ c with h | ⟨k,i,rfl,h⟩
    · rw [h]
    · rw [h,Keepsake.name_size,Keepsake.name_size]
  zeros c := by
    rcases exchangeNames_cases ρ c with h | ⟨k,i,rfl,h⟩
    · rw [h]
    · rw [h,Keepsake.name_zeros,Keepsake.name_zeros]

end

/-- A folder in which things are kept for jobs, and which is itself named after none whose id
changes. -/
structure Houses (ρ : Equiv.Perm JobId) (m : Disk.Renaming) (root : Path) : Prop where
  exchange : m.exchange = exchangeNames ρ
  place : Disk.destination root ∈ m.places
  kept : ∀ c ∈ Path.names root, m.exchange c = c

theorem Houses.leads (h : Houses ρ m root) (k : Keepsake) (i : JobId) :
    m.Leads (Path.join root (k.name i)) (Path.join root (k.name (ρ i))) := by
  have hn : m.named (Disk.destination root) (k.name i) = k.name (ρ i) := by
    rw [Disk.Renaming.named,if_pos h.place,h.exchange,exchangeNames_name]
  have hl := (m.leads_kept h.kept).join (k.own_name i) (hn.symm ▸ k.own_name (ρ i))
  rwa [hn] at hl

end BuildFarm
