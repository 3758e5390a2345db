import BuildFarm.Proofs.Disk.Within

namespace BuildFarm

namespace Disk

variable {spared : List String → Prop} {d e f : Disk} {p : Path} {name : String}

/-- What is spared is as it was. -/
def Spares (spared : List String → Prop) (d e : Disk) : Prop :=
  ∀ cs, spared cs → e.node? cs = d.node? cs

namespace Spares

theorem refl (spared : List String → Prop) (d : Disk) : Spares spared d d :=
  fun _ _ => rfl

theorem trans (h : Spares spared d e) (k : Spares spared e f) : Spares spared d f :=
  fun cs hc => (k cs hc).trans (h cs hc)

theorem put {cs : List String} (hne : cs ≠ []) (hs : ¬spared cs) (n : Node) :
    Spares spared d (d.put cs n) := by
  intro ds hd
  rw [node?_put d n hne,if_neg]
  rintro rfl
  exact hs hd

theorem erase {cs : List String} (hs : ¬spared cs) : Spares spared d (d.erase cs) := by
  intro ds hd
  apply node?_erase
  rintro rfl
  exact hs hd

theorem save (hs : ¬spared (destination p)) (h : d.save p bs = .ok e) : Spares spared d e := by
  obtain ⟨hne,_,rfl⟩ := save_destination h
  exact put hne hs _

theorem addFile (hs : ¬spared (destination p)) (h : d.addFile p bs = .ok e) :
    Spares spared d e := by
  obtain ⟨hn,rfl⟩ := addFile_destination h
  exact put (names_ne_nil hn) hs _

theorem link (hs : ¬spared (destination p)) (h : d.link source p = .ok e) : Spares spared d e := by
  obtain ⟨bs,_,h⟩ := ok_of_bind h
  exact addFile hs h

theorem unlink (hs : ¬spared (destination p)) (h : d.unlink p = .ok e) : Spares spared d e := by
  obtain ⟨⟨names,n⟩,hl,h⟩ := ok_of_bind h
  obtain ⟨rfl,_⟩ := look_destination hl
  cases n with
  | folder => cases h
  | file bs =>
    cases h
    exact erase hs

end Spares

/-- All that is below the folder goes away, and the folder stays. -/
def emptied (d : Disk) (names : List String) : Disk :=
  ⟨d.nodes.filter (fun e => !names.isPrefixOf e.1 || e.1 = names)⟩

theorem node?_emptied (d : Disk) (names cs : List String) :
    (d.emptied names).node? cs = if names <+: cs ∧ cs ≠ names then none else d.node? cs := by
  by_cases hc : cs = []
  · subst hc
    simp [node?,eq_comm]
  · have hkept : (!names.isPrefixOf cs || decide (cs = names)) = true ↔ ¬(names <+: cs ∧ cs ≠ names) := by
      rw [Bool.or_eq_true,Bool.not_eq_true',decide_eq_true_eq,← Bool.not_eq_true,
        List.isPrefixOf_iff_prefix,not_and_or,not_not]
    unfold node? emptied
    rw [if_neg hc,if_neg hc,Table.find?_filter (fun cs => !names.isPrefixOf cs || decide (cs = names))]
    simp only [hkept,ite_not]

theorem Ordered.emptied (h : d.Ordered) (names : List String) : (d.emptied names).Ordered :=
  List.Pairwise.filter _ h

/-- A folder that is empty goes away, unless it is out of reach or named from inside. -/
def removeEmptied (d : Disk) (p : Path) (names : List String) : Except IoError Unit × Disk :=
  match d.spot p with
  | .error _ => (.ok (),d)
  | .ok s => if s.name = none then (.error .invalidArgument,d) else (.ok (),d.erase names)

theorem removeTree_eq (d : Disk) (p : Path) : d.removeTree p =
    match d.look p with
    | .error x => (.error x,d)
    | .ok (_,.file _) => (.error .notFolder,d)
    | .ok (names,.folder) => (d.emptied names).removeEmptied p names :=
  rfl

theorem Spares.removeEmptied {names : List String} (hs : ¬spared names) :
    Spares spared d (d.removeEmptied p names).2 := by
  unfold Disk.removeEmptied
  split
  · exact .refl spared d
  · split
    · exact .refl spared d
    · exact .erase hs

theorem Spares.removeTree (hs : ∀ cs, spared cs → ¬destination p <+: cs) :
    Spares spared d (d.removeTree p).2 := by
  rw [removeTree_eq]
  split
  · exact .refl spared d
  · exact .refl spared d
  · rename_i names hl
    obtain ⟨rfl,_⟩ := look_destination hl
    have hemptied : Spares spared d (d.emptied (destination p)) := by
      intro cs hc
      rw [node?_emptied,if_neg]
      exact fun h => hs cs hc h.1
    exact hemptied.trans (.removeEmptied (fun hc => hs _ hc (List.prefix_refl _)))

/-- A folder for one name can be added to an open folder, unless something has the name. -/
theorem addFolder_join {above : List String} (h : d.Opens p above) (ho : Own name) :
    d.addFolder (p.join name).names = .ok (d.put (above ++ [name]) .folder) ∨
      ∃ x, d.addFolder (p.join name).names = .error x ∧ x ≠ .notFound := by
  obtain ⟨_,s,hw,hn,rfl⟩ := h
  unfold addFolder
  rw [Path.names_join p ho.toName,walk_join hw hn ho,ok_bind]
  unfold nodeAt
  split
  · exact Or.inr ⟨.nameTooLong,rfl,nofun⟩
  · rw [ok_bind]
    split
    · exact Or.inr ⟨.exists,rfl,nofun⟩
    · exact Or.inl rfl

theorem createFolders_join {above : List String} (h : d.Opens p above) (ho : Own name) :
    (d.createFolders (p.join name)).2 = d ∨
      (d.createFolders (p.join name)).2 = d.put (above ++ [name]) .folder := by
  unfold createFolders
  split
  · exact Or.inl rfl
  · unfold lineage addMissing
    rcases addFolder_join h ho with ha | ⟨x,ha,hx⟩
    · simp [ha,addFolders]
    · simp only [ha]
      refine Or.inl ?_
      split <;> rfl

/-- Where the first names of a path lead. -/
def OnWay (p : Path) (cs : List String) : Prop :=
  ∃ k, (p.names.take k).foldl stepTo [] = cs

/-- The names lead along the way of the path, each of them and the last. -/
def Along (p : Path) (names : List String) : Prop :=
  ∀ k, OnWay p ((names.take k).foldl stepTo [])

theorem along_names (p : Path) : Along p p.names :=
  fun k => ⟨k,rfl⟩

theorem Along.spot {names : List String} (h : Along p names) (hs : d.walk [] names = .ok s) :
    OnWay p s.names := by
  have hall := h names.length
  rwa [List.take_length,← walk_destination hs] at hall

/-- Without the single dots the names lead along the same way. -/
theorem foldl_dotless (folder names : List String) (k : Nat) :
    ∃ i, (names.take i).foldl stepTo folder =
      ((names.filter (· ≠ ".")).take k).foldl stepTo folder := by
  induction names generalizing folder k with
  | nil => exact ⟨0,by simp⟩
  | cons name rest ih =>
    by_cases hd : name = "."
    · subst hd
      obtain ⟨i,hi⟩ := ih folder k
      exact ⟨i + 1,by simpa [stepTo] using hi⟩
    · cases k with
      | zero => exact ⟨0,by simp⟩
      | succ k =>
        obtain ⟨i,hi⟩ := ih (stepTo folder name) k
        exact ⟨i + 1,by simpa [hd] using hi⟩

theorem along_lineage {names : List String} (h : names ∈ lineage p) : Along p names := by
  rcases List.mem_cons.mp h with rfl | h
  · exact along_names p
  · obtain ⟨j,_,rfl⟩ := List.mem_map.mp h
    intro k
    rw [List.take_take]
    exact foldl_dotless [] p.names (min k j)

/-- In the folder the same nodes, and on the way to it nodes of the same kinds. -/
structure Agree (p : Path) (d e : Disk) : Prop where
  way : ∀ cs, OnWay p cs → Option.Rel Node.Alike (d.node? cs) (e.node? cs)
  own : ∀ cs, destination p <+: cs → e.node? cs = d.node? cs
  left : d.Ordered
  right : e.Ordered

theorem kind_refl (n : Option Node) : Option.Rel Node.Alike n n := by
  cases n with
  | none => exact .none
  | some n =>
    cases n with
    | folder => exact .some .folder
    | file bs => exact .some (.file bs bs)

/-- Whether a name can be entered is told by the kind of what has it. -/
theorem enter_alike {folder : List String}
    (h : Option.Rel Node.Alike (d.node? (stepTo folder name)) (e.node? (stepTo folder name))) :
    e.enter folder name = d.enter folder name := by
  unfold enter
  unfold stepTo at h
  split
  · rfl
  · rename_i hd
    rw [if_neg hd] at h
    split
    · rfl
    · rename_i hdd
      rw [if_neg hdd] at h
      split
      · rfl
      · generalize d.node? (folder ++ [name]) = n at h ⊢
        generalize e.node? (folder ++ [name]) = o at h ⊢
        cases h with
        | none => rfl
        | some ha => cases ha <;> rfl

theorem walk_alike {folder names : List String}
    (h : ∀ k, Option.Rel Node.Alike (d.node? ((names.take k).foldl stepTo folder))
      (e.node? ((names.take k).foldl stepTo folder))) : e.walk folder names = d.walk folder names := by
  induction names generalizing folder with
  | nil => rfl
  | cons name rest ih =>
    cases rest with
    | nil => rfl
    | cons next rest =>
      rw [walk_cons,walk_cons,enter_alike (h 1)]
      cases hg : d.enter folder name with
      | error x => rfl
      | ok g =>
        obtain rfl := enter_stepTo hg
        exact ih (fun k => h (k + 1))

/-- What is found at a path is told by the way and by what stands at its end. -/
theorem look_congr (hs : e.spot p = d.spot p)
    (hn : e.node? (destination p) = d.node? (destination p)) : e.look p = d.look p := by
  unfold look
  rw [hs]
  cases h : d.spot p with
  | error x => rfl
  | ok s =>
    have hat : e.nodeAt s = d.nodeAt s := by
      rw [nodeAt,nodeAt,spot_destination h,hn]
    rw [ok_bind,ok_bind,hat]

theorem opens_destination {above : List String} (h : d.Opens p above) : above = destination p :=
  (look_destination (look_folder.mpr h)).1

/-- In an open folder what has a name, and what is in that, tells what is found there. -/
theorem look_inside {inner : String} (hd : d.Opens p above) (he : e.Opens p above) (ho : Own name)
    (hi : Own inner) (h : ∀ cs, destination p ++ [name] <+: cs → e.node? cs = d.node? cs) :
    e.look ((p.join name).join inner) = d.look ((p.join name).join inner) := by
  obtain rfl := opens_destination hd
  have hwalk {f : Disk} (hf : f.Opens p (destination p)) :
      f.walk [] ((p.join name).join inner).names = f.walk (destination p) [name,inner] := by
    obtain ⟨_,s,hw,hn,hs⟩ := hf
    rw [Path.names_join _ hi.toName,Path.names_join p ho.toName,List.append_assoc,
      walk_through hw hn (by simp),hs]
    rfl
  apply look_congr
  · have henter : e.enter (destination p) name = d.enter (destination p) name := by
      apply enter_alike
      have hstep : stepTo (destination p) name = destination p ++ [name] := by
        simp [stepTo,ho.dot,ho.dots]
      rw [hstep,h _ (List.prefix_refl _)]
      exact kind_refl _
    unfold spot
    rw [hwalk he,hwalk hd,walk_cons,walk_cons,henter]
    rfl
  · apply h
    rw [destination_join _ hi,destination_join p ho]
    exact List.prefix_append _ _

theorem Ordered.node?_erase (h : d.Ordered) (cs ds : List String) :
    (d.erase cs).node? ds = if cs = ds ∧ ds ≠ [] then none else d.node? ds := by
  by_cases hc : cs = ds
  · subst hc
    by_cases hne : cs = []
    · simp [hne,node?]
    · rw [node?_erase_self h hne,if_pos ⟨rfl,hne⟩]
  · rw [Disk.node?_erase d hc,if_neg (fun hn => hc hn.1)]

/-- Answers that are the same, from disks that agree to disks that do. -/
structure Accord (p : Path) (x y : α × Disk) : Prop where
  answer : y.1 = x.1
  disk : Agree p x.2 y.2

namespace Agree

variable {d' e' : Disk}

/-- What is done alike on both disks. -/
theorem change (h : Agree p d e) (hd : d'.Ordered) (he : e'.Ordered)
    (hc : ∀ cs, e'.node? cs = d'.node? cs ∨
      d'.node? cs = d.node? cs ∧ e'.node? cs = e.node? cs) : Agree p d' e' where
  way cs hcs := by
    rcases hc cs with hs | ⟨hl,hr⟩
    · rw [hs]
      exact kind_refl _
    · rw [hl,hr]
      exact h.way cs hcs
  own cs hcs := by
    rcases hc cs with hs | ⟨hl,hr⟩
    · exact hs
    · rw [hl,hr]
      exact h.own cs hcs
  left := hd
  right := he

theorem put (h : Agree p d e) {cs : List String} (hne : cs ≠ []) (n : Node) :
    Agree p (d.put cs n) (e.put cs n) := by
  refine h.change (h.left.put cs n) (h.right.put cs n) ?_
  intro ds
  rw [node?_put d n hne,node?_put e n hne]
  split
  · exact Or.inl rfl
  · exact Or.inr ⟨rfl,rfl⟩

theorem erase (h : Agree p d e) (cs : List String) : Agree p (d.erase cs) (e.erase cs) := by
  refine h.change (h.left.erase cs) (h.right.erase cs) ?_
  intro ds
  rw [h.left.node?_erase,h.right.node?_erase]
  split
  · exact Or.inl rfl
  · exact Or.inr ⟨rfl,rfl⟩

theorem emptied (h : Agree p d e) (names : List String) :
    Agree p (d.emptied names) (e.emptied names) := by
  refine h.change (h.left.emptied names) (h.right.emptied names) ?_
  intro ds
  rw [node?_emptied,node?_emptied]
  split
  · exact Or.inl rfl
  · exact Or.inr ⟨rfl,rfl⟩

section Inside

variable (h : Agree p d e) (ho : Own name)
include h ho

theorem spot_join : e.spot (p.join name) = d.spot (p.join name) := by
  unfold spot
  rw [Path.names_join p ho.toName]
  split
  · rfl
  · apply walk_alike
    intro k
    by_cases hk : k ≤ p.names.length
    · rw [List.take_append_of_le_length hk]
      exact h.way _ ⟨k,rfl⟩
    · have hall : (p.names ++ [name]).take k = (p.join name).names := by
        rw [Path.names_join p ho.toName]
        exact List.take_of_length_le (by simp; omega)
      have hown : destination p <+: destination (p.join name) := by
        rw [destination_join p ho]
        exact List.prefix_append _ _
      have hsame := h.own _ hown
      unfold destination at hsame
      rw [hall,hsame]
      exact kind_refl _

theorem own_join : e.node? (destination (p.join name)) = d.node? (destination (p.join name)) := by
  rw [destination_join p ho]
  exact h.own _ (List.prefix_append _ _)

theorem nodeAt_join (hs : d.spot (p.join name) = .ok s) : e.nodeAt s = d.nodeAt s := by
  rw [nodeAt,nodeAt,spot_destination hs,h.own_join ho]

theorem look_join : e.look (p.join name) = d.look (p.join name) :=
  look_congr (h.spot_join ho) (h.own_join ho)

theorem hasAt_join : e.hasAt (p.join name) = d.hasAt (p.join name) := by
  unfold hasAt
  rw [h.look_join ho]

theorem contents_join : e.contents (p.join name) = d.contents (p.join name) := by
  unfold contents
  rw [h.look_join ho]

theorem put_join (hs : d.spot (p.join name) = .ok s) (n : Node) :
    Agree p (d.put s.names n) (e.put s.names n) := by
  apply h.put
  rw [spot_destination hs,destination_join p ho]
  exact ne_nil name

theorem save_join (bs : Bytes) :
    Both Eq (Agree p) (d.save (p.join name) bs) (e.save (p.join name) bs) := by
  unfold save
  rw [h.spot_join ho]
  cases hs : d.spot (p.join name) with
  | error x => exact .error rfl
  | ok s =>
    rw [ok_bind,ok_bind,h.nodeAt_join ho hs]
    split
    · exact .error rfl
    · cases d.nodeAt s with
      | error x => exact .error rfl
      | ok n =>
        rw [ok_bind,ok_bind]
        split
        · exact .error rfl
        · exact .ok (h.put_join ho hs _)

theorem addFile_join (bs : Bytes) :
    Both Eq (Agree p) (d.addFile (p.join name) bs) (e.addFile (p.join name) bs) := by
  unfold addFile
  rw [h.spot_join ho]
  cases hs : d.spot (p.join name) with
  | error x => exact .error rfl
  | ok s =>
    rw [ok_bind,ok_bind,h.nodeAt_join ho hs]
    split
    · exact .error rfl
    · cases d.nodeAt s with
      | error x => exact .error rfl
      | ok n =>
        cases n with
        | some n => exact .error rfl
        | none => exact .ok (h.put_join ho hs _)

theorem link_join {target : String} (ht : Own target) :
    Both Eq (Agree p) (d.link (p.join name) (p.join target))
      (e.link (p.join name) (p.join target)) := by
  unfold link
  rw [h.contents_join ho]
  cases d.contents (p.join name) with
  | error x => exact .error rfl
  | ok bs => exact h.addFile_join ht bs

theorem unlink_join :
    Both Eq (Agree p) (d.unlink (p.join name)) (e.unlink (p.join name)) := by
  unfold unlink
  rw [h.look_join ho]
  cases d.look (p.join name) with
  | error x => exact .error rfl
  | ok x =>
    obtain ⟨names,n⟩ := x
    cases n with
    | folder => exact .error rfl
    | file bs => exact .ok (h.erase names)

end Inside

variable {names : List String}

theorem walk (h : Agree p d e) (ha : Along p names) : e.walk [] names = d.walk [] names :=
  walk_alike (fun k => h.way _ (ha k))

theorem nodeAt (h : Agree p d e) (hs : OnWay p s.names) :
    Both Eq (Option.Rel Node.Alike) (d.nodeAt s) (e.nodeAt s) := by
  unfold Disk.nodeAt
  split
  · exact .error rfl
  · exact .ok (h.way _ hs)

theorem addFolder (h : Agree p d e) (ha : Along p names) :
    Both Eq (Agree p) (d.addFolder names) (e.addFolder names) := by
  unfold Disk.addFolder
  rw [h.walk ha]
  cases hs : d.walk [] names with
  | error x => exact .error rfl
  | ok s =>
    have hn := h.nodeAt (ha.spot hs)
    rw [ok_bind,ok_bind]
    generalize hx : d.nodeAt s = x at hn ⊢
    generalize e.nodeAt s = y at hn ⊢
    cases hn with
    | error he => exact he ▸ .error rfl
    | ok hn =>
      cases hn with
      | none => exact .ok (h.put (names_ne_nil (nodeAt_ok hx)) .folder)
      | some _ => exact .error rfl

theorem isFolderAt (h : Agree p d e) (ha : Along p names) :
    e.isFolderAt names = d.isFolderAt names := by
  unfold Disk.isFolderAt
  rw [h.walk ha]
  cases hs : d.walk [] names with
  | error x => rfl
  | ok s =>
    have hn := h.nodeAt (ha.spot hs)
    dsimp only
    generalize d.nodeAt s = x at hn ⊢
    generalize e.nodeAt s = y at hn ⊢
    cases hn with
    | error he => rfl
    | ok hn =>
      cases hn with
      | none => rfl
      | some hn => cases hn <;> simp [Except.toOption]

theorem addFolders (h : Agree p d e) {folders : List (List String)}
    (ha : ∀ names ∈ folders, Along p names) :
    Accord p (d.addFolders folders) (e.addFolders folders) := by
  induction folders generalizing d e with
  | nil => exact ⟨rfl,h⟩
  | cons names rest ih =>
    rw [List.forall_mem_cons] at ha
    obtain ⟨hnames,hrest⟩ := ha
    have hadd := h.addFolder hnames
    unfold Disk.addFolders
    rw [h.isFolderAt hnames]
    generalize d.addFolder names = x at hadd ⊢
    generalize e.addFolder names = y at hadd ⊢
    cases hadd with
    | ok h => exact ih h hrest
    | error he =>
      subst he
      dsimp only
      split
      · exact ih h hrest
      · exact ⟨rfl,h⟩

theorem addMissing (h : Agree p d e) {missing folders : List (List String)}
    (hm : ∀ names ∈ missing, Along p names) (ha : ∀ names ∈ folders, Along p names) :
    Accord p (d.addMissing missing folders) (e.addMissing missing folders) := by
  induction folders generalizing missing with
  | nil => exact h.addFolders hm
  | cons names rest ih =>
    rw [List.forall_mem_cons] at ha
    obtain ⟨hnames,hrest⟩ := ha
    have hadd := h.addFolder hnames
    unfold Disk.addMissing
    rw [h.isFolderAt hnames]
    generalize d.addFolder names = x at hadd ⊢
    generalize e.addFolder names = y at hadd ⊢
    cases hadd with
    | ok h => exact h.addFolders hm
    | @error x _ he =>
      subst he
      cases x
      case notFound => exact ih (List.forall_mem_cons.mpr ⟨hnames,hm⟩) hrest
      all_goals
        dsimp only
        split
        · exact h.addFolders hm
        · exact ⟨rfl,h⟩

theorem createFolders (h : Agree p d e) : Accord p (d.createFolders p) (e.createFolders p) := by
  unfold Disk.createFolders
  split
  · exact ⟨rfl,h⟩
  · exact h.addMissing nofun (fun _ hn => along_lineage hn)

theorem spot (h : Agree p d e) : e.spot p = d.spot p := by
  unfold Disk.spot
  rw [h.walk (along_names p)]

theorem look (h : Agree p d e) :
    Both Eq (fun x y => y.1 = x.1 ∧ x.2.Alike y.2) (d.look p) (e.look p) := by
  unfold Disk.look
  rw [h.spot]
  cases hs : d.spot p with
  | error x => exact .error rfl
  | ok s =>
    rw [ok_bind,ok_bind]
    have hway : OnWay p s.names := ⟨p.names.length,by rw [List.take_length,spot_destination hs]; rfl⟩
    refine (h.nodeAt hway).bind ?_
    rintro n o hn
    cases hn with
    | none => exact .error rfl
    | some ha =>
      cases ha with
      | folder => exact .ok ⟨rfl,.folder⟩
      | file bs cs =>
        dsimp only
        split
        · exact .error rfl
        · exact .ok ⟨rfl,.file bs cs⟩

theorem removeEmptied (h : Agree p d e) (names : List String) :
    Accord p (d.removeEmptied p names) (e.removeEmptied p names) := by
  unfold Disk.removeEmptied
  rw [h.spot]
  cases d.spot p with
  | error x => exact ⟨rfl,h⟩
  | ok s =>
    dsimp only
    split
    · exact ⟨rfl,h⟩
    · exact ⟨rfl,h.erase names⟩

theorem removeTree (h : Agree p d e) : Accord p (d.removeTree p) (e.removeTree p) := by
  have hl := h.look
  rw [removeTree_eq,removeTree_eq]
  generalize d.look p = x at hl ⊢
  generalize e.look p = y at hl ⊢
  cases hl with
  | error he =>
    subst he
    exact ⟨rfl,h⟩
  | @ok x y hn =>
    obtain ⟨names,n⟩ := x
    obtain ⟨_,o⟩ := y
    obtain ⟨rfl,hn⟩ := hn
    cases hn with
    | file bs cs => exact ⟨rfl,h⟩
    | folder => exact (h.emptied _).removeEmptied _

end Agree

end Disk

end BuildFarm
