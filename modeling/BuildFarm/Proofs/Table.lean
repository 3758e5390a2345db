import BuildFarm.Table
import Mathlib.Order.Basic

namespace BuildFarm

namespace Table

section Equal

variable {κ α : Type} [DecidableEq κ]

theorem mem_of_find? {t : Table κ α} (h : find? t k = some a) : (k,a) ∈ t := by
  induction t with
  | nil => simp [find?] at h
  | cons e rest ih =>
    obtain ⟨m,b⟩ := e
    simp only [find?] at h
    split at h
    · rename_i he
      cases h
      simp [he]
    · exact List.mem_cons_of_mem _ (ih h)

theorem not_mem_of_find? {t : Table κ α} (h : find? t k = none) (a : α) : (k,a) ∉ t := by
  induction t with
  | nil => simp
  | cons e rest ih =>
    obtain ⟨m,b⟩ := e
    simp only [find?] at h
    split at h
    · cases h
    · rename_i hne
      simp [Ne.symm hne,ih h]

theorem find?_erase_of_ne (t : Table κ α) (h : k ≠ l) : find? (erase t k) l = find? t l := by
  induction t with
  | nil => rfl
  | cons e rest ih =>
    obtain ⟨m,b⟩ := e
    simp only [erase]
    split
    · rename_i he
      have hm : m ≠ l := fun hl => h (he.symm.trans hl)
      simp [find?,hm]
    · simp [find?,ih]

/-- Of the entries whose keys the condition lets pass, each is found as before. -/
theorem find?_filter (q : κ → Bool) (t : Table κ α) (k : κ) :
    find? (t.filter (fun e => q e.1)) k = if q k = true then find? t k else none := by
  induction t with
  | nil => simp [find?]
  | cons e rest ih =>
    obtain ⟨l,a⟩ := e
    by_cases hl : l = k
    · subst hl
      by_cases hq : q l = true <;> simp [find?,hq,ih]
    · by_cases hq : q l = true <;> simp [find?,hq,hl,ih]

theorem erase_sublist (t : Table κ α) (k : κ) : (erase t k).Sublist t := by
  induction t with
  | nil => exact .slnil
  | cons e rest ih =>
    simp only [erase]
    split
    · exact List.sublist_cons_self _ _
    · exact ih.cons_cons _

theorem lastOfEach_subset {es : List (κ × α)} {e : κ × α} (h : e ∈ lastOfEach es) : e ∈ es := by
  induction es using lastOfEach.induct with
  | case1 => exact h
  | case2 f => exact h
  | case3 f g rest he ih =>
    rw [lastOfEach,if_pos he] at h
    exact List.mem_cons_of_mem _ (ih h)
  | case4 f g rest he ih =>
    rw [lastOfEach,if_neg he] at h
    rcases List.mem_cons.mp h with rfl | h
    · exact List.mem_cons_self
    · exact List.mem_cons_of_mem _ (ih h)

end Equal

section Ordered

variable {κ α : Type} [LT κ] [DecidableLT κ] [DecidableEq κ]

theorem find?_insert (t : Table κ α) (k l : κ) (a : α) :
    find? (insert t k a) l = if k = l then some a else find? t l := by
  induction t with
  | nil => simp [insert,find?]
  | cons e rest ih =>
    obtain ⟨m,b⟩ := e
    simp only [insert]
    split
    · simp [find?]
    · split
      · rename_i he
        subst he
        by_cases hl : k = l <;> simp [find?,hl]
      · rename_i hne
        by_cases hm : m = l
        · have hk : k ≠ l := fun he => hne (he.trans hm.symm)
          simp [find?,hm,hk]
        · simp [find?,hm,ih]

@[simp] theorem find?_insert_self (t : Table κ α) (k : κ) (a : α) :
    find? (insert t k a) k = some a := by
  simp [find?_insert]

theorem mem_insert {t : Table κ α} {e : κ × α} (h : e ∈ insert t k a) : e = (k,a) ∨ e ∈ t := by
  induction t with
  | nil => exact Or.inl (by simpa [insert] using h)
  | cons f rest ih =>
    obtain ⟨m,b⟩ := f
    simp only [insert] at h
    split at h
    · simpa using h
    · split at h
      · rcases List.mem_cons.mp h with h | h
        · exact Or.inl h
        · exact Or.inr (List.mem_cons_of_mem _ h)
      · rcases List.mem_cons.mp h with h | h
        · exact Or.inr (h ▸ List.mem_cons_self)
        · rcases ih h with h | h
          · exact Or.inl h
          · exact Or.inr (List.mem_cons_of_mem _ h)

theorem mem_ofList {es : List (κ × α)} {e : κ × α} (h : e ∈ ofList es) : e ∈ es :=
  List.mem_mergeSort.mp (lastOfEach_subset h)

end Ordered

/-- Before an entry whose key is of the kind `p` there are entries with lesser keys alone. A table
in order is one where that holds of all keys. -/
def Leading {κ α : Type} [LT κ] (p : κ → Prop) (t : Table κ α) : Prop :=
  t.Pairwise (fun e f => p f.1 → e.1 < f.1)

theorem leading_of_none {κ α : Type} [LT κ] {p : κ → Prop} {t : Table κ α}
    (h : ∀ k a, (k,a) ∈ t → ¬p k) : Leading p t :=
  List.pairwise_of_forall_mem_list (fun _ _ f hf hp => absurd hp (h f.1 f.2 hf))

theorem Leading.erase {κ α : Type} [LT κ] [DecidableEq κ] {p : κ → Prop} {t : Table κ α}
    (h : Leading p t) (k : κ) : Leading p (Table.erase t k) :=
  List.Pairwise.sublist (erase_sublist t k) h

section Linear

variable {κ α : Type} [LT κ] [DecidableEq κ] [IsStrictTotalOrder κ (· < ·)] {p : κ → Prop}

theorem Leading.insert [DecidableLT κ] {t : Table κ α} (h : Leading p t) (k : κ) (a : α) :
    Leading p (Table.insert t k a) := by
  induction t with
  | nil => exact List.pairwise_singleton _ _
  | cons e rest ih =>
    obtain ⟨m,b⟩ := e
    obtain ⟨hh,ht⟩ := List.pairwise_cons.mp h
    simp only [Table.insert]
    split
    · rename_i hk
      refine List.pairwise_cons.mpr ⟨?_,h⟩
      intro f hf hp
      rcases List.mem_cons.mp hf with rfl | hf
      · exact hk
      · exact trans_of (· < ·) hk (hh f hf hp)
    · split
      · rename_i he
        subst he
        exact List.pairwise_cons.mpr ⟨hh,ht⟩
      · rename_i hn hne
        refine List.pairwise_cons.mpr ⟨?_,ih ht⟩
        intro f hf hp
        rcases mem_insert hf with rfl | hf
        · rcases trichotomous_of (· < ·) k m with hk | hk | hk
          · exact absurd hk hn
          · exact absurd hk hne
          · exact hk
        · exact hh f hf hp

theorem Leading.find?_of_mem {t : Table κ α} (h : Leading p t) (hp : p k) (hm : (k,a) ∈ t) :
    find? t k = some a := by
  induction t with
  | nil => simp at hm
  | cons e rest ih =>
    obtain ⟨m,b⟩ := e
    obtain ⟨hh,ht⟩ := List.pairwise_cons.mp h
    rcases List.mem_cons.mp hm with he | hm
    · cases he
      simp [find?]
    · have hne : m ≠ k := by
        rintro rfl
        exact irrefl_of (· < ·) m (hh _ hm hp)
      simp [find?,hne,ih ht hm]

theorem Leading.find?_erase {t : Table κ α} (h : Leading p t) (hp : p k) :
    find? (Table.erase t k) k = none := by
  rw [Option.eq_none_iff_forall_ne_some]
  intro a ha
  have hm := mem_of_find? ha
  induction t with
  | nil => simp [Table.erase] at hm
  | cons e rest ih =>
    obtain ⟨m,b⟩ := e
    obtain ⟨hh,ht⟩ := List.pairwise_cons.mp h
    unfold Table.erase at ha hm
    split at hm
    · rename_i he
      have hlt := hh (k,a) hm hp
      rw [he] at hlt
      exact irrefl_of (· < ·) k hlt
    · rename_i hne
      rw [if_neg hne] at ha
      simp only [find?,hne,if_false] at ha
      exact ih ht ha (mem_of_find? ha)

/-- Where no key comes before an earlier one, those that remain increase. -/
theorem lastOfEach_pairwise {es : List (κ × α)} (h : es.Pairwise (fun e f => ¬f.1 < e.1)) :
    (lastOfEach es).Pairwise (fun e f => e.1 < f.1) := by
  induction es using lastOfEach.induct with
  | case1 => exact .nil
  | case2 f => exact List.pairwise_singleton _ _
  | case3 f g rest he ih =>
    rw [lastOfEach,if_pos he]
    exact ih (List.pairwise_cons.mp h).2
  | case4 f g rest he ih =>
    obtain ⟨hf,hrest⟩ := List.pairwise_cons.mp h
    obtain ⟨hg,_⟩ := List.pairwise_cons.mp hrest
    rw [lastOfEach,if_neg he]
    refine List.pairwise_cons.mpr ⟨?_,ih hrest⟩
    intro e hm
    have hlt : f.1 < g.1 := by
      rcases trichotomous_of (· < ·) f.1 g.1 with h | h | h
      · exact h
      · exact absurd h he
      · exact absurd h (hf g List.mem_cons_self)
    rcases List.mem_cons.mp (lastOfEach_subset hm) with rfl | hm
    · exact hlt
    · rcases trichotomous_of (· < ·) g.1 e.1 with h | h | h
      · exact trans_of (· < ·) hlt h
      · exact h ▸ hlt
      · exact absurd h (hg e hm)

theorem lastOfEach_of_pairwise {es : List (κ × α)} (h : es.Pairwise (fun e f => e.1 < f.1)) :
    lastOfEach es = es := by
  induction es using lastOfEach.induct with
  | case1 => rfl
  | case2 f => rfl
  | case3 f g rest he ih =>
    have hlt := (List.pairwise_cons.mp h).1 g List.mem_cons_self
    rw [he] at hlt
    exact absurd hlt (irrefl_of (· < ·) g.1)
  | case4 f g rest he ih =>
    rw [lastOfEach,if_neg he,ih (List.pairwise_cons.mp h).2]

theorem ofList_pairwise [DecidableLT κ] (es : List (κ × α)) :
    (ofList es).Pairwise (fun e f => e.1 < f.1) := by
  have htrans {a b c : κ} (hab : ¬b < a) (hbc : ¬c < b) : ¬c < a := by
    intro hca
    rcases trichotomous_of (· < ·) a b with h | h | h
    · exact hbc (trans_of (· < ·) hca h)
    · exact hbc (h ▸ hca)
    · exact hab h
  have hs : (es.mergeSort (fun e f => !decide (f.1 < e.1))).Pairwise
      (fun e f => !decide (f.1 < e.1)) := by
    apply List.pairwise_mergeSort
    · intro a b c hab hbc
      simp only [Bool.not_eq_true',decide_eq_false_iff_not] at hab hbc ⊢
      exact htrans hab hbc
    · intro a b
      simp only [Bool.or_eq_true,Bool.not_eq_true',decide_eq_false_iff_not]
      by_cases h : b.1 < a.1
      · exact Or.inr (asymm_of (· < ·) h)
      · exact Or.inl h
  apply lastOfEach_pairwise
  refine hs.imp ?_
  intro e f h
  simpa using h

theorem ofList_of_pairwise [DecidableLT κ] {es : List (κ × α)}
    (h : es.Pairwise (fun e f => e.1 < f.1)) : ofList es = es := by
  have hs : es.mergeSort (fun e f => !decide (f.1 < e.1)) = es := by
    apply List.mergeSort_of_pairwise
    refine h.imp ?_
    intro e f hlt
    simpa using asymm_of (· < ·) hlt
  rw [ofList,hs,lastOfEach_of_pairwise h]

theorem ofList_ofList [DecidableLT κ] (es : List (κ × α)) : ofList (ofList es) = ofList es :=
  ofList_of_pairwise (ofList_pairwise es)

end Linear

end Table

namespace Sorted

section Equal

variable {κ : Type} [DecidableEq κ]

theorem erase_sublist (k : κ) (ks : List κ) : (erase k ks).Sublist ks := by
  induction ks with
  | nil => exact .slnil
  | cons l rest ih =>
    simp only [erase]
    split
    · exact List.sublist_cons_self _ _
    · exact ih.cons_cons _

theorem mem_erase_of_ne {k l : κ} (ks : List κ) (h : l ≠ k) : l ∈ erase k ks ↔ l ∈ ks := by
  induction ks with
  | nil => simp [erase]
  | cons m rest ih =>
    simp only [erase]
    split
    · rename_i hm
      simp [hm,h]
    · simp [ih]

theorem not_mem_erase {k : κ} {ks : List κ} (h : ks.Nodup) : k ∉ erase k ks := by
  induction ks with
  | nil => simp [erase]
  | cons l rest ih =>
    obtain ⟨hl,hrest⟩ := List.nodup_cons.mp h
    simp only [erase]
    split
    · rename_i he
      exact he ▸ hl
    · rename_i he
      intro hm
      rcases List.mem_cons.mp hm with hm | hm
      · exact he hm.symm
      · exact ih hrest hm

theorem mem_eraseRepsBy_loop (k l : κ) (ks done : List κ) :
    k ∈ List.eraseRepsBy.loop (· == ·) l ks done ↔ k ∈ l :: ks ∨ k ∈ done := by
  induction ks generalizing l done with
  | nil => simp [List.eraseRepsBy.loop,or_comm]
  | cons m rest ih =>
    unfold List.eraseRepsBy.loop
    split
    · rename_i he
      rw [ih,eq_of_beq he]
      simp
    · rw [ih]
      simp only [List.mem_cons,or_assoc,or_left_comm]

end Equal

section Ordered

variable {κ : Type} [LT κ] [DecidableLT κ] [DecidableEq κ]

theorem mem_insert (k l : κ) (ks : List κ) : l ∈ insert k ks ↔ l = k ∨ l ∈ ks := by
  induction ks with
  | nil => simp [insert]
  | cons m rest ih =>
    simp only [insert]
    split
    · simp
    · split
      · rename_i hk
        simp [hk]
      · simp [ih,or_left_comm]

theorem insert_pairwise [IsStrictTotalOrder κ (· < ·)] {ks : List κ} (h : ks.Pairwise (· < ·))
    (k : κ) : (insert k ks).Pairwise (· < ·) := by
  induction ks with
  | nil => exact List.pairwise_singleton _ _
  | cons l rest ih =>
    obtain ⟨hl,hrest⟩ := List.pairwise_cons.mp h
    simp only [insert]
    split
    · rename_i hk
      refine List.pairwise_cons.mpr ⟨?_,h⟩
      intro m hm
      rcases List.mem_cons.mp hm with rfl | hm
      · exact hk
      · exact trans_of (· < ·) hk (hl m hm)
    · split
      · exact h
      · rename_i hn hne
        refine List.pairwise_cons.mpr ⟨?_,ih hrest⟩
        intro m hm
        rcases (mem_insert k m rest).mp hm with rfl | hm
        · rcases trichotomous_of (· < ·) m l with hk | hk | hk
          · exact absurd hk hn
          · exact absurd hk hne
          · exact hk
        · exact hl m hm

theorem mem_ofList {k : κ} {ks : List κ} : k ∈ ofList ks ↔ k ∈ ks := by
  have hm : k ∈ ks.mergeSort (fun a b => !decide (b < a)) ↔ k ∈ ks := List.mem_mergeSort
  rw [← hm]
  unfold ofList
  cases ks.mergeSort (fun a b => !decide (b < a)) with
  | nil => rfl
  | cons l rest => simpa [List.eraseReps,List.eraseRepsBy] using mem_eraseRepsBy_loop k l rest []

end Ordered

end Sorted

namespace Entries

variable {κ α : Type} [DecidableEq κ]

theorem set_new {es : List (κ × α)} {k : κ} (a : α) (h : k ∉ es.map Prod.fst) :
    set es k a = es ++ [(k,a)] := by
  induction es with
  | nil => rfl
  | cons e rest ih =>
    obtain ⟨l,b⟩ := e
    simp only [List.map_cons,List.mem_cons,not_or] at h
    simp [set,Ne.symm h.1,ih h.2]

/-- No key comes to stand in two entries. -/
theorem set_nodup {es : List (κ × α)} (h : (es.map Prod.fst).Nodup) (k : κ) (a : α) :
    ((set es k a).map Prod.fst).Nodup := by
  have hkeys (es : List (κ × α)) {l : κ} (hl : l ∈ (set es k a).map Prod.fst) :
      l = k ∨ l ∈ es.map Prod.fst := by
    induction es with
    | nil => exact Or.inl (List.mem_singleton.mp hl)
    | cons e rest ih =>
      obtain ⟨m,b⟩ := e
      rw [set] at hl
      split at hl
      · rename_i he
        exact Or.inr (he ▸ hl)
      · rcases List.mem_cons.mp hl with rfl | hl
        · exact Or.inr List.mem_cons_self
        · exact (ih hl).imp_right (List.mem_cons_of_mem _)
  induction es with
  | nil => simp [set]
  | cons e rest ih =>
    obtain ⟨l,b⟩ := e
    obtain ⟨hl,hrest⟩ := List.nodup_cons.mp h
    rw [set]
    split
    · rename_i he
      exact he ▸ h
    · rename_i hne
      refine List.nodup_cons.mpr ⟨fun hm => ?_,ih hrest⟩
      exact (hkeys rest hm).elim hne hl

/-- Entries under keys that all differ come one after another. -/
theorem foldl_set {es : List (κ × α)} {ks : List κ} (g : κ → α) (hd : ks.Nodup)
    (h : ∀ k ∈ ks, k ∉ es.map Prod.fst) :
    ks.foldl (fun es k => set es k (g k)) es = es ++ ks.map (fun k => (k,g k)) := by
  induction ks generalizing es with
  | nil => simp
  | cons k ks ih =>
    obtain ⟨hk,hks⟩ := List.nodup_cons.mp hd
    rw [List.foldl_cons,set_new _ (h k List.mem_cons_self),ih hks]
    · simp
    · intro l hl
      have hne : l ≠ k := fun he => hk (he ▸ hl)
      have hn := h l (List.mem_cons_of_mem _ hl)
      simpa [hne] using hn

theorem eraseDups_nodup (ks : List κ) : ks.eraseDups.Nodup := by
  match ks with
  | [] => exact List.nodup_nil
  | k :: ks =>
    have hlen : (ks.filter fun l => !l == k).length < ks.length + 1 :=
      Nat.lt_succ_of_le (List.length_filter_le _ _)
    rw [List.eraseDups_cons]
    refine List.nodup_cons.mpr ⟨?_,eraseDups_nodup _⟩
    simp [List.mem_eraseDups]
termination_by ks.length

end Entries

end BuildFarm

