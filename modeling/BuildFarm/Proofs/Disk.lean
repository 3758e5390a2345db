import BuildFarm.Disk
import BuildFarm.Proofs.Outcome
import BuildFarm.Proofs.Path
import BuildFarm.Proofs.Table
import Mathlib.Data.List.Lex
import Mathlib.Data.String.Basic

namespace BuildFarm

namespace Disk

theorem node?_put {cs : List String} (d : Disk) (n : Node) (h : cs ≠ []) (ds : List String) :
    (d.put cs n).node? ds = if cs = ds then some n else d.node? ds := by
  unfold node? put
  rw [Table.find?_insert]
  by_cases hd : ds = []
  · simp [hd,h]
  · simp [hd]

theorem node?_erase {cs ds : List String} (d : Disk) (h : cs ≠ ds) :
    (d.erase cs).node? ds = d.node? ds := by
  unfold node? erase
  rw [Table.find?_erase_of_ne _ h]

/-- The names that lead to something in a folder. -/
def Inside (above names : List String) : Prop :=
  ∃ name, names = above ++ [name]

theorem ne_nil (name : String) : above ++ [name] ≠ [] := by
  simp

theorem ne_name {name other : String} (h : name ≠ other) : above ++ [name] ≠ above ++ [other] := by
  intro he
  exact h (List.singleton_inj.mp (List.append_cancel_left he))

theorem node?_of_mem {d : Disk} (h : d.nodes.Leading (Inside above))
    (hm : (above ++ [name],n) ∈ d.nodes) : d.node? (above ++ [name]) = some n := by
  rw [node?,if_neg (ne_nil name)]
  exact h.find?_of_mem ⟨name,rfl⟩ hm

theorem mem_of_node? {d : Disk} {cs : List String} (hc : cs ≠ []) (h : d.node? cs = some n) :
    (cs,n) ∈ d.nodes := by
  rw [node?,if_neg hc] at h
  exact Table.mem_of_find? h

theorem leading_put {d : Disk} {p : List String → Prop} (h : d.nodes.Leading p)
    (cs : List String) (n : Node) : (d.put cs n).nodes.Leading p := by
  unfold put
  exact h.insert cs n

theorem leading_erase {d : Disk} {p : List String → Prop} (h : d.nodes.Leading p)
    (cs : List String) : (d.erase cs).nodes.Leading p :=
  h.erase cs

/-- The entries of a disk in order, as they are on every disk. -/
def Ordered (d : Disk) : Prop :=
  d.nodes.Pairwise (fun e f => e.1 < f.1)

theorem empty_ordered : Disk.empty.Ordered := .nil

theorem Ordered.leading {d : Disk} (h : d.Ordered) (p : List String → Prop) :
    d.nodes.Leading p := by
  refine List.Pairwise.imp ?_ h
  intro e f hlt _
  exact hlt

theorem ordered_iff {d : Disk} : d.Ordered ↔ d.nodes.Leading (fun _ => True) := by
  simp [Ordered,Table.Leading]

theorem Ordered.put {d : Disk} (h : d.Ordered) (cs : List String) (n : Node) :
    (d.put cs n).Ordered :=
  ordered_iff.mpr (leading_put (ordered_iff.mp h) cs n)

theorem Ordered.addFolder {d e : Disk} (h : d.Ordered) (ha : d.addFolder names = .ok e) :
    e.Ordered := by
  obtain ⟨s,_,ha⟩ := ok_of_bind ha
  obtain ⟨n,_,ha⟩ := ok_of_bind ha
  split at ha
  · cases ha
  · cases ha
    exact h.put _ _

theorem Ordered.addFolders {d : Disk} (h : d.Ordered) (names : List (List String)) :
    (d.addFolders names).2.Ordered := by
  induction names generalizing d with
  | nil => exact h
  | cons ns rest ih =>
    unfold Disk.addFolders
    split
    · rename_i ha
      exact ih (h.addFolder ha)
    · split
      · exact ih h
      · exact h

theorem Ordered.addMissing {d : Disk} (h : d.Ordered) (missing names : List (List String)) :
    (d.addMissing missing names).2.Ordered := by
  induction names generalizing missing with
  | nil => exact h.addFolders missing
  | cons ns rest ih =>
    unfold Disk.addMissing
    split
    · rename_i ha
      exact (h.addFolder ha).addFolders missing
    · exact ih _
    · split
      · exact h.addFolders missing
      · exact h

/-- Folders are added where they belong. -/
theorem Ordered.createFolders {d : Disk} (h : d.Ordered) (p : Path) :
    (d.createFolders p).2.Ordered := by
  unfold Disk.createFolders
  split
  · exact h
  · exact h.addMissing [] (lineage p)

/-- No folder went away. -/
def FoldersStay (d e : Disk) : Prop :=
  ∀ cs, d.node? cs = some .folder → e.node? cs = some .folder

theorem FoldersStay.trans {d e f : Disk} (h : FoldersStay d e) (k : FoldersStay e f) :
    FoldersStay d f :=
  fun cs hc => k cs (h cs hc)

theorem foldersStay_put {d : Disk} {cs : List String} (hc : cs ≠ [])
    (h : d.node? cs ≠ some .folder) (n : Node) : FoldersStay d (d.put cs n) := by
  intro ds hd
  rw [node?_put d n hc]
  split
  · rename_i he
    exact absurd (he ▸ hd) h
  · exact hd

theorem foldersStay_erase {d : Disk} {cs : List String} (h : d.node? cs ≠ some .folder) :
    FoldersStay d (d.erase cs) := by
  intro ds hd
  have hne : cs ≠ ds := by
    rintro rfl
    exact h hd
  rw [node?_erase d hne]
  exact hd

theorem enter_stays {d e : Disk} (h : FoldersStay d e) (hd : d.enter folder name = .ok g) :
    e.enter folder name = .ok g := by
  unfold enter at hd ⊢
  split
  · rename_i hn
    rwa [if_pos hn] at hd
  · rename_i hn
    rw [if_neg hn] at hd
    split
    · rename_i hn
      rwa [if_pos hn] at hd
    · rename_i hn
      rw [if_neg hn] at hd
      split
      · rename_i hl
        rw [if_pos hl] at hd
        cases hd
      · rename_i hl
        rw [if_neg hl] at hd
        split at hd
        · cases hd
        · cases hd
        · rename_i hf
          rw [h _ hf]
          exact hd

theorem walk_cons (d : Disk) (folder : List String) (name next : String) (rest : List String) :
    d.walk folder (name :: next :: rest) =
      (d.enter folder name).bind (fun g => d.walk g (next :: rest)) := rfl

theorem walk_stays {d e : Disk} (h : FoldersStay d e) {names : List String}
    (hw : d.walk folder names = .ok s) : e.walk folder names = .ok s := by
  induction names generalizing folder with
  | nil => exact hw
  | cons name names ih =>
    cases names with
    | nil => exact hw
    | cons next rest =>
      rw [walk_cons] at hw ⊢
      cases hg : d.enter folder name with
      | error e => simp [hg,Except.bind] at hw
      | ok g =>
        rw [hg] at hw
        rw [enter_stays h hg]
        exact ih hw

theorem nodeAt_folder {d : Disk} {s : Spot} (h : d.nodeAt s = .ok (some .folder)) :
    (s.name.getD "").utf8ByteSize ≤ maxNameBytes ∧ d.node? s.names = some .folder := by
  unfold nodeAt at h
  split at h
  · cases h
  · rename_i hl
    exact ⟨Nat.le_of_not_lt hl,Except.ok.inj h⟩

theorem nodeAt_ok {d : Disk} {s : Spot} (h : d.nodeAt s = .ok n) : d.node? s.names = n := by
  unfold nodeAt at h
  split at h
  · cases h
  · exact Except.ok.inj h

theorem nodeAt_stays {d e : Disk} (h : FoldersStay d e) {s : Spot}
    (hn : d.nodeAt s = .ok (some .folder)) : e.nodeAt s = .ok (some .folder) := by
  obtain ⟨hl,hf⟩ := nodeAt_folder hn
  rw [nodeAt,if_neg (Nat.not_lt_of_le hl),h _ hf]

/-- A name that stands for itself: not for the folder it is looked up in, nor for the one above. -/
structure Own (name : String) : Prop extends Path.Name name where
  dot : name ≠ "."
  dots : name ≠ ".."

theorem own_of_long {name : String} (hl : 2 < name.toList.length) (hs : '/' ∉ name.toList) :
    Own name where
  nonempty := by
    intro h
    simp [h] at hl
  slash := hs
  dot := by
    rintro rfl
    exact absurd hl (by decide)
  dots := by
    rintro rfl
    exact absurd hl (by decide)

/-- The last name of a walk to a folder can be entered. -/
theorem enter_last {d : Disk} (hw : d.walk folder [name] = .ok s)
    (hn : d.nodeAt s = .ok (some .folder)) : d.enter folder name = .ok s.names := by
  simp only [walk] at hw
  unfold enter
  split at hw
  · rename_i hd
    cases hw
    simp [hd,Spot.names]
  · rename_i hd
    rw [if_neg hd]
    split at hw
    · rename_i hd
      cases hw
      simp [hd,Spot.names]
    · rename_i hd
      cases hw
      obtain ⟨hl,hf⟩ := nodeAt_folder hn
      simp only [Spot.names,Option.toList_some,Option.getD_some] at hl hf ⊢
      rw [if_neg hd,if_neg (Nat.not_lt_of_le hl),hf]

/-- Behind a walk to a folder more names are walked from there. -/
theorem walk_through {d : Disk} {names rest : List String} (hw : d.walk folder names = .ok s)
    (hn : d.nodeAt s = .ok (some .folder)) (hr : rest ≠ []) :
    d.walk folder (names ++ rest) = d.walk s.names rest := by
  obtain ⟨name,more,rfl⟩ := List.exists_cons_of_ne_nil hr
  induction names generalizing folder with
  | nil =>
    cases hw
    simp [Spot.names]
  | cons first names ih =>
    cases names with
    | nil =>
      rw [List.singleton_append,walk_cons,enter_last hw hn]
      rfl
    | cons next names =>
      rw [walk_cons] at hw
      rw [List.cons_append,List.cons_append,walk_cons]
      cases hg : d.enter folder first with
      | error e => simp [hg,Except.bind] at hw
      | ok g =>
        rw [hg] at hw
        exact ih hw

/-- One more name leads to that name in the folder. -/
theorem walk_join {d : Disk} {names : List String} (hw : d.walk folder names = .ok s)
    (hn : d.nodeAt s = .ok (some .folder)) (ho : Own name) :
    d.walk folder (names ++ [name]) = .ok ⟨s.names,some name⟩ := by
  rw [walk_through hw hn (List.cons_ne_nil name [])]
  simp [walk,ho.dot,ho.dots]

/-- The path is that of a folder, which stands under the names `above`. -/
structure Opens (d : Disk) (p : Path) (above : List String) : Prop where
  fine : objection? p = none
  found : ∃ s, d.walk [] p.names = .ok s ∧ d.nodeAt s = .ok (some .folder) ∧ s.names = above

theorem look_folder {d : Disk} {p : Path} : d.look p = .ok (above,.folder) ↔ d.Opens p above := by
  constructor
  · intro h
    obtain ⟨s,hs,h⟩ := ok_of_bind h
    obtain ⟨n,hn,h⟩ := ok_of_bind h
    have hfolder : n = some .folder ∧ s.names = above := by
      split at h
      · cases h
      · cases h
        exact ⟨rfl,rfl⟩
      · split at h <;> cases h
    obtain ⟨rfl,ha⟩ := hfolder
    unfold spot at hs
    split at hs
    · cases hs
    · rename_i hp
      exact ⟨hp,s,hs,hn,ha⟩
  · rintro ⟨hp,s,hw,hn,rfl⟩
    simp [look,spot,hp,hw,hn,bind,Except.bind,pure,Except.pure]

namespace Opens

variable {d e : Disk} {p : Path} {above : List String} {name : String}

theorem stays (h : d.Opens p above) (hf : FoldersStay d e) : e.Opens p above := by
  obtain ⟨hp,s,hw,hn,ha⟩ := h
  exact ⟨hp,s,walk_stays hf hw,nodeAt_stays hf hn,ha⟩

theorem spot_join (h : d.Opens p above) (ho : Own name) (hs : d.spot (p.join name) = .ok s) :
    s = ⟨above,some name⟩ := by
  obtain ⟨hp,t,hw,hn,rfl⟩ := h
  unfold spot at hs
  split at hs
  · cases hs
  · rw [Path.names_join p ho.toName,walk_join hw hn ho] at hs
    exact (Except.ok.inj hs).symm

theorem save_join (h : d.Opens p above) (ho : Own name) (hs : d.save (p.join name) bs = .ok e) :
    d.node? (above ++ [name]) ≠ some .folder ∧ e = d.put (above ++ [name]) (.file bs) := by
  obtain ⟨s,hspot,hs⟩ := ok_of_bind hs
  obtain rfl := h.spot_join ho hspot
  split at hs
  · cases hs
  · obtain ⟨n,hn,hs⟩ := ok_of_bind hs
    have hnode := nodeAt_ok hn
    split at hs
    · cases hs
    · rename_i hne
      refine ⟨?_,(Except.ok.inj hs).symm⟩
      intro hf
      exact hne (hnode.symm.trans hf)

theorem look_join (h : d.Opens p above) (ho : Own name)
    (hl : d.look (p.join name) = .ok (names,n)) :
    names = above ++ [name] ∧ d.node? (above ++ [name]) = some n := by
  obtain ⟨s,hspot,hl⟩ := ok_of_bind hl
  obtain rfl := h.spot_join ho hspot
  obtain ⟨n,hn,hl⟩ := ok_of_bind hl
  have hnode := nodeAt_ok hn
  split at hl
  · cases hl
  · cases hl
    exact ⟨rfl,hnode⟩
  · split at hl
    · cases hl
    · cases hl
      exact ⟨rfl,hnode⟩

/-- A file takes the place of another one in its folder. -/
theorem rename_join (h : d.Opens p above) (ho : Own name) {target : String} (ht : Own target)
    (hr : d.rename (p.join name) (p.join target) = .ok e) :
    ∃ bs, d.node? (above ++ [name]) = some (.file bs) ∧
      (d.erase (above ++ [name])).node? (above ++ [target]) ≠ some .folder ∧
      e = (d.erase (above ++ [name])).put (above ++ [target]) (.file bs) := by
  obtain ⟨⟨names,n⟩,hl,hr⟩ := ok_of_bind hr
  obtain ⟨bs,hbs,hr⟩ := ok_of_bind hr
  obtain ⟨rfl,hn⟩ := h.look_join ho hl
  have hfile : n = .file bs := by
    cases n with
    | folder => cases hbs
    | file bs' => rw [Except.ok.inj hbs]
  subst hfile
  have hgone : d.node? (above ++ [name]) ≠ some .folder := by simp [hn]
  obtain ⟨hf,he⟩ := (h.stays (foldersStay_erase hgone)).save_join ht hr
  exact ⟨bs,hn,hf,he⟩

/-- Nothing has to be done for a folder that is there. -/
theorem createFolders (h : d.Opens p above) : d.createFolders p = (.ok (),d) := by
  obtain ⟨hp,s,hw,hn,_⟩ := h
  have hadd : d.addFolder p.names = .error .exists := by
    simp [addFolder,hw,hn,bind,Except.bind,throw,throwThe,MonadExceptOf.throw]
  have hat : d.isFolderAt p.names = true := by
    simp [isFolderAt,hw,hn,Except.toOption]
  simp [Disk.createFolders,hp,lineage,addMissing,hadd,hat,addFolders]

theorem below_eq (h : d.Opens p above) : d.below p = .ok (d.nodes.filterMap (fun e =>
    if above.isPrefixOf e.1 ∧ e.1 ≠ above then some (e.1.drop above.length,e.2) else none)) := by
  unfold below
  rw [look_folder.mpr h]
  rfl

theorem list_ok (h : d.Opens p above) : ∃ entries, d.list p = .ok entries := by
  unfold list
  rw [h.below_eq]
  exact ⟨_,rfl⟩

/-- What is listed stands under one name more than the folder. -/
theorem mem_list (h : d.Opens p above) (hl : d.list p = .ok entries) :
    (name,n) ∈ entries ↔ (above ++ [name],n) ∈ d.nodes := by
  obtain ⟨es,hb,hl⟩ := ok_of_bind hl
  rw [h.below_eq] at hb
  cases hb
  cases hl
  constructor
  · intro hm
    obtain ⟨⟨cs,m⟩,hcs,hm⟩ := List.mem_filterMap.mp hm
    obtain ⟨⟨ds,k⟩,hds,hcs⟩ := List.mem_filterMap.mp hcs
    split at hcs
    · rename_i hp
      cases hcs
      obtain ⟨rest,rfl⟩ := List.isPrefixOf_iff_prefix.mp hp.1
      rw [List.drop_left] at hm
      split at hm
      · rename_i hrest
        cases hm
        simp only at hrest
        exact hrest ▸ hds
      · cases hm
    · cases hcs
  · intro hm
    refine List.mem_filterMap.mpr ⟨([name],n),List.mem_filterMap.mpr ⟨_,hm,?_⟩,rfl⟩
    simp

end Opens

theorem opens_of_list {d : Disk} {p : Path} (h : d.list p = .ok entries) :
    ∃ above, d.Opens p above := by
  obtain ⟨es,hb,_⟩ := ok_of_bind h
  obtain ⟨⟨above,n⟩,hl,hb⟩ := ok_of_bind hb
  cases n with
  | folder => exact ⟨above,look_folder.mp hl⟩
  | file bs => cases hb

end Disk

end BuildFarm
