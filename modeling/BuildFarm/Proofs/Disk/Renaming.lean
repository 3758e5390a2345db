import BuildFarm.Proofs.Disk.Names
import Mathlib.Data.Option.Basic
import Mathlib.Logic.Equiv.Basic

namespace BuildFarm

/-- Two computations that fail in related ways or give related results. -/
inductive Both (e : ε → δ → Prop) (r : α → β → Prop) : Except ε α → Except δ β → Prop
  | ok (h : r a b) : Both e r (.ok a) (.ok b)
  | error (h : e x y) : Both e r (.error x) (.error y)

theorem Both.bind {e : ε → δ → Prop} {r : α → β → Prop} {s : γ → ζ → Prop} {x : Except ε α}
    {y : Except δ β} (h : Both e r x y) {f : α → Except ε γ} {g : β → Except δ ζ}
    (hf : ∀ a b, r a b → Both e s (f a) (g b)) : Both e s (x >>= f) (y >>= g) := by
  cases h with
  | ok h => exact hf _ _ h
  | error h => exact .error h

theorem Both.imp {e : ε → δ → Prop} {r s : α → β → Prop} {x : Except ε α} {y : Except δ β}
    (h : Both e r x y) (hr : ∀ a b, r a b → s a b) : Both e s x y := by
  cases h with
  | ok h => exact .ok (hr _ _ h)
  | error h => exact .error h

theorem Both.refl (x : Except ε α) : Both Eq Eq x x := by
  cases x with
  | ok _ => exact .ok rfl
  | error _ => exact .error rfl

/-- Nodes of one kind. -/
inductive Node.Alike : Node → Node → Prop
  | folder : Alike .folder .folder
  | file (bs cs : Bytes) : Alike (.file bs) (.file cs)

namespace Disk

/-- An exchange of names, and the folders in which names are exchanged. -/
structure Renaming where
  exchange : Equiv.Perm String
  places : List (List String)
  dot : exchange "." = "."
  dots : exchange ".." = ".."
  size : ∀ c, (exchange c).utf8ByteSize = c.utf8ByteSize
  zeros : ∀ c, (exchange c).toList.any (·.toNat = 0) = c.toList.any (·.toNat = 0)

/-- Where a name leads, walked from a folder. -/
def stepTo (folder : List String) (name : String) : List String :=
  if name = "." then folder else if name = ".." then folder.dropLast else folder ++ [name]

/-- Where a path leads. -/
def destination (p : Path) : List String :=
  p.names.foldl stepTo []

theorem destination_join (p : Path) {name : String} (ho : Own name) :
    destination (p.join name) = destination p ++ [name] := by
  simp [destination,Path.names_join p ho.toName,stepTo,ho.dot,ho.dots]

namespace Renaming

variable (m : Renaming)

/-- The other name of what has the name in the folder. -/
def named (folder : List String) (name : String) : String :=
  if folder ∈ m.places then m.exchange name else name

/-- The other names of what is found under the names in the folder. -/
def below (folder : List String) : List String → List String
  | [] => []
  | c :: cs => m.named folder c :: below (folder ++ [c]) cs

def names (cs : List String) : List String := m.below [] cs

/-- The other names that a walk from the folder takes. -/
def walked (folder : List String) : List String → List String
  | [] => []
  | c :: cs => m.named folder c :: walked (stepTo folder c) cs

def spot (s : Spot) : Spot := ⟨m.names s.folder,s.name.map (m.named s.folder)⟩

@[simp] theorem named_dot (folder : List String) : m.named folder "." = "." := by
  simp [named,m.dot]

@[simp] theorem named_dots (folder : List String) : m.named folder ".." = ".." := by
  simp [named,m.dots]

theorem named_injective (folder : List String) : Function.Injective (m.named folder) := by
  intro c d h
  unfold named at h
  split at h
  · exact m.exchange.injective h
  · exact h

theorem named_eq_dot {folder : List String} : m.named folder c = "." ↔ c = "." :=
  ⟨fun h => m.named_injective folder (h.trans (m.named_dot folder).symm),
    fun h => h ▸ m.named_dot folder⟩

theorem named_eq_dots {folder : List String} : m.named folder c = ".." ↔ c = ".." :=
  ⟨fun h => m.named_injective folder (h.trans (m.named_dots folder).symm),
    fun h => h ▸ m.named_dots folder⟩

theorem named_size (folder : List String) (c : String) :
    (m.named folder c).utf8ByteSize = c.utf8ByteSize := by
  unfold named
  split
  · exact m.size c
  · rfl

theorem named_zeros (folder : List String) (c : String) :
    (m.named folder c).toList.any (·.toNat = 0) = c.toList.any (·.toNat = 0) := by
  unfold named
  split
  · exact m.zeros c
  · rfl

/-- A name that is exchanged for none stays what it is everywhere. -/
theorem named_kept (folder : List String) (h : m.exchange c = c) : m.named folder c = c := by
  unfold named
  split
  · exact h
  · rfl

theorem below_append (folder cs ds : List String) :
    m.below folder (cs ++ ds) = m.below folder cs ++ m.below (folder ++ cs) ds := by
  induction cs generalizing folder with
  | nil => simp [below]
  | cons c cs ih => simp [below,ih]

theorem names_snoc (cs : List String) (c : String) :
    m.names (cs ++ [c]) = m.names cs ++ [m.named cs c] := by
  simp [names,below_append,below]

theorem below_injective (folder : List String) : Function.Injective (m.below folder) := by
  intro cs ds h
  induction cs generalizing folder ds with
  | nil =>
    cases ds with
    | nil => rfl
    | cons d ds => cases h
  | cons c cs ih =>
    cases ds with
    | nil => cases h
    | cons d ds =>
      obtain ⟨hc,hcs⟩ := List.cons.inj h
      obtain rfl := m.named_injective folder hc
      rw [ih _ hcs]

theorem names_injective : Function.Injective m.names := m.below_injective []

theorem names_dropLast (cs : List String) : m.names cs.dropLast = (m.names cs).dropLast := by
  rcases List.eq_nil_or_concat cs with rfl | ⟨ds,c,rfl⟩
  · rfl
  · simp [names_snoc]

theorem names_eq_nil {cs : List String} : m.names cs = [] ↔ cs = [] := by
  cases cs <;> simp [names,below]

theorem names_spot (s : Spot) : (m.spot s).names = m.names s.names := by
  obtain ⟨folder,name⟩ := s
  cases name with
  | none => simp [spot,Spot.names]
  | some name => simp [spot,Spot.names,names_snoc]

theorem below_kept (folder : List String) {cs : List String} (h : ∀ c ∈ cs, m.exchange c = c) :
    m.below folder cs = cs := by
  induction cs generalizing folder with
  | nil => rfl
  | cons c cs ih =>
    rw [List.forall_mem_cons] at h
    rw [below,m.named_kept folder h.1,ih _ h.2]

theorem walked_kept (folder : List String) {cs : List String} (h : ∀ c ∈ cs, m.exchange c = c) :
    m.walked folder cs = cs := by
  induction cs generalizing folder with
  | nil => rfl
  | cons c cs ih =>
    rw [List.forall_mem_cons] at h
    rw [walked,m.named_kept folder h.1,ih _ h.2]

theorem walked_append (folder cs ds : List String) :
    m.walked folder (cs ++ ds) = m.walked folder cs ++ m.walked (cs.foldl stepTo folder) ds := by
  induction cs generalizing folder with
  | nil => rfl
  | cons c cs ih => simp [walked,ih]

theorem walked_length (folder cs : List String) : (m.walked folder cs).length = cs.length := by
  induction cs generalizing folder with
  | nil => rfl
  | cons c cs ih => simp [walked,ih]

theorem walked_take (folder cs : List String) (k : Nat) :
    m.walked folder (cs.take k) = (m.walked folder cs).take k := by
  induction cs generalizing folder k with
  | nil => simp [walked]
  | cons c cs ih =>
    cases k with
    | zero => rfl
    | succ k => simp [walked,ih]

/-- Single dots lead nowhere. -/
theorem walked_dotless (folder cs : List String) :
    m.walked folder (cs.filter (· ≠ ".")) = (m.walked folder cs).filter (· ≠ ".") := by
  induction cs generalizing folder with
  | nil => rfl
  | cons c cs ih =>
    by_cases hc : c = "."
    · subst hc
      simpa [walked,stepTo] using ih folder
    · simpa [walked,hc,m.named_eq_dot] using ih (stepTo folder c)

/-- The path `q` leads to the other name of what `p` leads to. -/
structure Leads (p q : Path) : Prop where
  size : q.utf8ByteSize = p.utf8ByteSize
  zeros : q.toList.any (·.toNat = 0) = p.toList.any (·.toNat = 0)
  names : q.names = m.walked [] p.names
  asks : q.asksForFolder = p.asksForFolder

theorem leads_kept {p : Path} (h : ∀ c ∈ p.names, m.exchange c = c) : m.Leads p p :=
  ⟨rfl,rfl,(m.walked_kept [] h).symm,rfl⟩

namespace Leads

variable {m : Renaming} {p q : Path}

theorem objection (l : m.Leads p q) : objection? q = objection? p := by
  unfold objection?
  rw [l.size,l.zeros]

theorem join (l : m.Leads p q) {name : String} (ho : Own name)
    (ho' : Own (m.named (destination p) name)) :
    m.Leads (p.join name) (q.join (m.named (destination p) name)) := by
  have hend : (q.toList.getLast? = some '/' ∨ q = "") ↔ (p.toList.getLast? = some '/' ∨ p = "") := by
    have hasks : q.toList.getLast? = some '/' ↔ p.toList.getLast? = some '/' :=
      decide_eq_decide.mp l.asks
    rw [hasks,← String.utf8ByteSize_eq_zero_iff,← String.utf8ByteSize_eq_zero_iff,l.size]
  refine ⟨?_,?_,?_,?_⟩
  · simp only [Path.join,hend]
    split <;> simp only [String.utf8ByteSize_append,l.size,m.named_size]
  · simp only [Path.join,hend]
    split <;> simp only [String.toList_append,List.any_append,l.zeros,m.named_zeros]
  · rw [Path.names_join q ho'.toName,Path.names_join p ho.toName,l.names,m.walked_append]
    rfl
  · rw [asksForFolder_join q ho',asksForFolder_join p ho]

theorem lineage (l : m.Leads p q) :
    Disk.lineage q = (Disk.lineage p).map (m.walked []) := by
  unfold Disk.lineage
  dsimp only
  rw [l.names,← m.walked_dotless,m.walked_length,List.map_cons,List.map_map]
  congr 2
  funext k
  exact (m.walked_take [] _ k).symm

end Leads

end Renaming

/-- Where there is a node on the one disk, there is one of its kind under the other name. -/
structure Renamed (m : Renaming) (d e : Disk) : Prop where
  nodes : ∀ cs, Option.Rel Node.Alike (d.node? cs) (e.node? (m.names cs))
  left : d.Ordered
  right : e.Ordered

/-- A disk on which no name is exchanged is the same under the other names. -/
theorem renamed_self {m : Renaming} {d : Disk} (h : d.Ordered)
    (hk : ∀ e ∈ d.nodes, ∀ c ∈ e.1, m.exchange c = c) : Renamed m d d where
  nodes cs := by
    have kept {ds : List String} (hd : d.node? ds ≠ none) : ∀ c ∈ ds, m.exchange c = c := by
      rcases eq_or_ne ds [] with rfl | hne
      · simp
      · obtain ⟨n,hn⟩ := Option.ne_none_iff_exists'.mp hd
        exact hk _ (mem_of_node? hne hn)
    by_cases hcs : ∀ c ∈ cs, m.exchange c = c
    · rw [Renaming.names,m.below_kept [] hcs]
      cases d.node? cs with
      | none => exact .none
      | some n =>
        cases n with
        | folder => exact .some .folder
        | file bs => exact .some (.file bs bs)
    · have hleft : d.node? cs = none := by
        by_contra hne
        exact hcs (kept hne)
      have hright : d.node? (m.names cs) = none := by
        by_contra hne
        have hsame := m.names_injective ((m.below_kept [] (kept hne)) : m.names _ = _)
        exact hcs (hsame ▸ kept hne)
      rw [hleft,hright]
      exact .none
  left := h
  right := h

theorem Ordered.erase {d : Disk} (h : d.Ordered) (cs : List String) : (d.erase cs).Ordered :=
  ordered_iff.mpr (leading_erase (ordered_iff.mp h) cs)

theorem node?_erase_self {d : Disk} (h : d.Ordered) {cs : List String} (hc : cs ≠ []) :
    (d.erase cs).node? cs = none := by
  rw [node?,if_neg hc]
  exact (h.leading (fun _ => True)).find?_erase trivial

/-- Answers that belong together, with what became of the disks. -/
structure Outcomes (m : Renaming) (r : α → β → Prop) (x : α × Disk) (y : β × Disk) : Prop where
  answer : r x.1 y.1
  disk : Renamed m x.2 y.2

namespace Renamed

variable {m : Renaming} {d e : Disk} {p q : Path}

theorem put (h : Renamed m d e) (cs : List String) {n o : Node} (hn : n.Alike o) :
    Renamed m (d.put cs n) (e.put (m.names cs) o) where
  nodes ds := by
    rcases eq_or_ne ds [] with rfl | hd
    · exact .some .folder
    have hd' : m.names ds ≠ [] := fun he => hd (m.names_eq_nil.mp he)
    have hs := h.nodes ds
    unfold node? at hs ⊢
    rw [if_neg hd,if_neg hd'] at hs ⊢
    unfold Disk.put
    rw [Table.find?_insert,Table.find?_insert]
    by_cases hc : cs = ds
    · rw [if_pos hc,if_pos (congrArg m.names hc)]
      exact .some hn
    · rw [if_neg hc,if_neg (fun he => hc (m.names_injective he))]
      exact hs
  left := h.left.put cs n
  right := h.right.put _ o

theorem erase (h : Renamed m d e) (cs : List String) :
    Renamed m (d.erase cs) (e.erase (m.names cs)) where
  nodes ds := by
    rcases eq_or_ne ds [] with rfl | hd
    · exact .some .folder
    have hd' : m.names ds ≠ [] := fun he => hd (m.names_eq_nil.mp he)
    by_cases hc : cs = ds
    · subst hc
      rw [node?_erase_self h.left hd,node?_erase_self h.right hd']
      exact .none
    · rw [node?_erase d hc,node?_erase e (fun he => hc (m.names_injective he))]
      exact h.nodes ds
  left := h.left.erase cs
  right := h.right.erase _

theorem enter (h : Renamed m d e) (folder : List String) (name : String) :
    Both Eq (fun f g => g = m.names f ∧ f = stepTo folder name) (d.enter folder name)
      (e.enter (m.names folder) (m.named folder name)) := by
  have hn := h.nodes (folder ++ [name])
  rw [m.names_snoc] at hn
  unfold Disk.enter stepTo
  simp only [m.named_eq_dot,m.named_eq_dots,m.named_size]
  split
  · exact .ok ⟨rfl,rfl⟩
  split
  · exact .ok ⟨(m.names_dropLast folder).symm,rfl⟩
  split
  · exact .error rfl
  generalize d.node? (folder ++ [name]) = n at hn ⊢
  generalize e.node? (m.names folder ++ [m.named folder name]) = o at hn ⊢
  cases hn with
  | none => exact .error rfl
  | some ha =>
    cases ha with
    | folder => exact .ok ⟨(m.names_snoc folder name).symm,rfl⟩
    | file bs cs => exact .error rfl

theorem walk (h : Renamed m d e) (folder cs : List String) :
    Both Eq (fun s t => t = m.spot s) (d.walk folder cs)
      (e.walk (m.names folder) (m.walked folder cs)) := by
  induction cs generalizing folder with
  | nil => exact .ok rfl
  | cons name cs ih =>
    cases cs with
    | nil =>
      simp only [Renaming.walked,Disk.walk,m.named_eq_dot,m.named_eq_dots]
      split
      · exact .ok rfl
      split
      · exact .ok (by rw [Renaming.spot,m.names_dropLast]; rfl)
      · exact .ok rfl
    | cons next rest =>
      rw [walk_cons]
      refine (h.enter folder name).bind ?_
      rintro f _ ⟨rfl,rfl⟩
      exact ih _

theorem spot (h : Renamed m d e) (l : m.Leads p q) :
    Both Eq (fun s t => t = m.spot s) (d.spot p) (e.spot q) := by
  unfold Disk.spot
  rw [l.objection,l.names]
  split
  · exact .error rfl
  · exact h.walk [] p.names

theorem nodeAt (h : Renamed m d e) (s : Spot) :
    Both Eq (Option.Rel Node.Alike) (d.nodeAt s) (e.nodeAt (m.spot s)) := by
  have hsize : ((m.spot s).name.getD "").utf8ByteSize = (s.name.getD "").utf8ByteSize := by
    obtain ⟨folder,name⟩ := s
    cases name with
    | none => rfl
    | some name => exact m.named_size folder name
  unfold Disk.nodeAt
  rw [hsize,m.names_spot]
  split
  · exact .error rfl
  · exact .ok (h.nodes s.names)

theorem look (h : Renamed m d e) (l : m.Leads p q) :
    Both Eq (fun x y => y.1 = m.names x.1 ∧ x.2.Alike y.2) (d.look p) (e.look q) := by
  unfold Disk.look
  refine (h.spot l).bind ?_
  rintro s _ rfl
  refine (h.nodeAt s).bind ?_
  rintro n o hn
  cases hn with
  | none => exact .error rfl
  | some ha =>
    cases ha with
    | folder => exact .ok ⟨m.names_spot s,.folder⟩
    | file bs cs =>
      dsimp only
      rw [l.asks]
      split
      · exact .error rfl
      · exact .ok ⟨m.names_spot s,.file bs cs⟩

theorem hasAt (h : Renamed m d e) (l : m.Leads p q) : e.hasAt q = d.hasAt p := by
  have hl := h.look l
  unfold Disk.hasAt
  generalize d.look p = x at hl ⊢
  generalize e.look q = y at hl ⊢
  cases hl with
  | ok _ => rfl
  | error he => rw [he]

theorem contents (h : Renamed m d e) (l : m.Leads p q) :
    Both Eq (fun _ _ => True) (d.contents p) (e.contents q) := by
  refine (h.look l).bind ?_
  rintro ⟨_,n⟩ ⟨_,o⟩ ⟨_,hn⟩
  cases hn with
  | folder => exact .error rfl
  | file bs cs => exact .ok trivial

theorem save (h : Renamed m d e) (l : m.Leads p q) (bs cs : Bytes) :
    Both Eq (Renamed m) (d.save p bs) (e.save q cs) := by
  unfold Disk.save
  refine (h.spot l).bind ?_
  rintro s _ rfl
  have hname : (m.spot s).name = none ↔ s.name = none := Option.map_eq_none_iff
  simp only [hname,l.asks]
  split
  · exact .error rfl
  refine (h.nodeAt s).bind ?_
  rintro n o hn
  cases hn with
  | none => exact .ok (m.names_spot s ▸ h.put s.names (.file bs cs))
  | some ha =>
    cases ha with
    | folder => exact .error rfl
    | file _ _ => exact .ok (m.names_spot s ▸ h.put s.names (.file bs cs))

theorem addFile (h : Renamed m d e) (l : m.Leads p q) (bs cs : Bytes) :
    Both Eq (Renamed m) (d.addFile p bs) (e.addFile q cs) := by
  unfold Disk.addFile
  refine (h.spot l).bind ?_
  rintro s _ rfl
  have hname : (m.spot s).name ≠ none ↔ s.name ≠ none := Option.map_eq_none_iff.not
  simp only [hname,l.asks]
  split
  · exact .error rfl
  refine (h.nodeAt s).bind ?_
  rintro n o hn
  cases hn with
  | none => exact .ok (m.names_spot s ▸ h.put s.names (.file bs cs))
  | some _ => exact .error rfl

theorem rename (h : Renamed m d e) {p' q' : Path} (l : m.Leads p q) (l' : m.Leads p' q') :
    Both Eq (Renamed m) (d.rename p p') (e.rename q q') := by
  refine (h.look l).bind ?_
  rintro ⟨names,n⟩ ⟨_,o⟩ ⟨rfl,hn⟩
  cases hn with
  | folder => exact .error rfl
  | file bs cs => exact (h.erase names).save l' bs cs

theorem link (h : Renamed m d e) {p' q' : Path} (l : m.Leads p q) (l' : m.Leads p' q') :
    Both Eq (Renamed m) (d.link p p') (e.link q q') :=
  (h.contents l).bind (fun bs cs _ => h.addFile l' bs cs)

theorem unlink (h : Renamed m d e) (l : m.Leads p q) :
    Both Eq (Renamed m) (d.unlink p) (e.unlink q) := by
  refine (h.look l).bind ?_
  rintro ⟨names,n⟩ ⟨_,o⟩ ⟨rfl,hn⟩
  cases hn with
  | folder => exact .error rfl
  | file bs cs => exact .ok (h.erase names)

theorem addFolder (h : Renamed m d e) (names : List String) :
    Both Eq (Renamed m) (d.addFolder names) (e.addFolder (m.walked [] names)) := by
  refine (h.walk [] names).bind ?_
  rintro s _ rfl
  refine (h.nodeAt s).bind ?_
  rintro n o hn
  cases hn with
  | none => exact .ok (m.names_spot s ▸ h.put s.names Node.Alike.folder)
  | some _ => exact .error rfl

theorem isFolderAt (h : Renamed m d e) (names : List String) :
    e.isFolderAt (m.walked [] names) = d.isFolderAt names := by
  have hw : Both Eq (fun s t => t = m.spot s) (d.walk [] names) (e.walk [] (m.walked [] names)) :=
    h.walk [] names
  unfold Disk.isFolderAt
  generalize d.walk [] names = x at hw ⊢
  generalize e.walk [] (m.walked [] names) = y at hw ⊢
  cases hw with
  | error _ => rfl
  | @ok s _ hs =>
    subst hs
    have hn := h.nodeAt s
    dsimp only
    generalize d.nodeAt s = x at hn ⊢
    generalize e.nodeAt (m.spot s) = y at hn ⊢
    cases hn with
    | error _ => rfl
    | ok hn =>
      cases hn with
      | none => rfl
      | some ha => cases ha <;> simp [Except.toOption]

theorem addFolders (h : Renamed m d e) (folders : List (List String)) :
    Outcomes m Eq (d.addFolders folders) (e.addFolders (folders.map (m.walked []))) := by
  induction folders generalizing d e with
  | nil => exact ⟨rfl,h⟩
  | cons names rest ih =>
    have ha := h.addFolder names
    simp only [List.map_cons,Disk.addFolders,h.isFolderAt]
    generalize d.addFolder names = x at ha ⊢
    generalize e.addFolder (m.walked [] names) = y at ha ⊢
    cases ha with
    | ok ha => exact ih ha
    | error he =>
      subst he
      dsimp only
      split
      · exact ih h
      · exact ⟨rfl,h⟩

theorem addMissing (h : Renamed m d e) (missing folders : List (List String)) :
    Outcomes m Eq (d.addMissing missing folders)
      (e.addMissing (missing.map (m.walked [])) (folders.map (m.walked []))) := by
  induction folders generalizing missing with
  | nil => exact h.addFolders missing
  | cons names rest ih =>
    have ha := h.addFolder names
    simp only [List.map_cons,Disk.addMissing,h.isFolderAt]
    generalize d.addFolder names = x at ha ⊢
    generalize e.addFolder (m.walked [] names) = y at ha ⊢
    cases ha with
    | ok ha => exact ha.addFolders missing
    | @error f _ he =>
      subst he
      cases f
      case notFound => exact ih (names :: missing)
      all_goals
        dsimp only
        split
        · exact h.addFolders missing
        · exact ⟨rfl,h⟩

theorem createFolders (h : Renamed m d e) (l : m.Leads p q) :
    Outcomes m Eq (d.createFolders p) (e.createFolders q) := by
  unfold Disk.createFolders
  rw [l.objection,l.lineage]
  split
  · exact ⟨rfl,h⟩
  · exact h.addMissing [] (lineage p)

end Renamed

end Disk

end BuildFarm
