import BuildFarm.Proofs.Artifacts.Upload
import BuildFarm.Proofs.Json.Record
import BuildFarm.Proofs.Store.Names
import Mathlib.Data.List.Infix

namespace BuildFarm

namespace ArtifactName

open Json.Reader

variable {s : String}

/-- What can name one file in a folder. -/
structure Component (s : String) : Prop where
  some : 1 ≤ s.utf8ByteSize
  most : s.utf8ByteSize ≤ 255
  dot : s ≠ "."
  dots : s ≠ ".."
  whole : ∀ c ∈ s.toList, c ≠ '/' ∧ c ≠ '\\' ∧ c ≠ '\x00'

theorem isSeparator_eq_false {c : Char} :
    isSeparator c = false ↔ c ≠ '/' ∧ c ≠ '\\' ∧ c ≠ '\x00' := by
  have hzero : c.toNat = 0 ↔ c = '\x00' :=
    ⟨fun h => Char.toNat_inj.mp h,fun h => h ▸ rfl⟩
  simp [isSeparator,hzero,and_assoc]

theorem component_iff : objection? s = none ↔ Component s := by
  rw [objection?_none]
  simp only [isSeparator_eq_false]
  have hsome : s ≠ "" ↔ 1 ≤ s.utf8ByteSize := by
    rw [Nat.one_le_iff_ne_zero,ne_eq,ne_eq,String.utf8ByteSize_eq_zero_iff]
  rw [hsome]
  exact ⟨fun ⟨h,hm,hd,hdd,hw⟩ => ⟨h,hm,hd,hdd,hw⟩,fun ⟨h,hm,hd,hdd,hw⟩ => ⟨h,hm,hd,hdd,hw⟩⟩

theorem ext_iff {n m : ArtifactName} : n = m ↔ n.text = m.text :=
  ⟨congrArg text,ext⟩

theorem parse_ok {n : ArtifactName} : parse s = .ok n ↔ n.text = s :=
  ⟨text_of_parse,fun h => h ▸ parse_text n⟩

theorem exists_text_iff : (∃ n : ArtifactName, n.text = s) ↔ Component s := by
  rw [← component_iff]
  constructor
  · rintro ⟨n,rfl⟩
    exact n.valid
  · intro h
    exact ⟨⟨s,h⟩,rfl⟩

/-- A document is read as a name exactly if it is read as the text of that name. -/
theorem read_ok {doc : List Glyph} {n : ArtifactName} :
    Json.parse read doc = .ok n ↔ Json.parse Json.Reader.text doc = .ok n.text := by
  have hread (c e : Json.Cursor) : read c = .ok (n,e) ↔ Json.Reader.text c = .ok (n.text,e) := by
    change Json.Reader.bind Json.Reader.text _ c = _ ↔ _
    unfold Json.Reader.bind
    cases Json.Reader.text c with
    | error f => simp
    | ok x =>
      obtain ⟨s,c⟩ := x
      dsimp only
      cases hp : parse s with
      | ok m =>
        obtain rfl := text_of_parse hp
        change Except.ok (m,c) = .ok (n,e) ↔ _
        simp [ext_iff]
      | error f =>
        change Except.error _ = .ok (n,e) ↔ _
        refine iff_of_false nofun ?_
        intro h
        cases h
        rw [parse_text] at hp
        cases hp
  simp only [Json.parse_eq_ok,hread]

/-- However a name is made, components of paths are taken and nothing else is, and the name is the
text that it was made of. -/
structure Exact : Prop where
  component : ∀ n : ArtifactName, Component n.text
  parsed : ∀ s, (∃ n, parse s = .ok n) ↔ Component s
  parsedText : ∀ s n, parse s = .ok n → n.text = s
  /-- Every text has a document. -/
  document : ∀ s, Json.parse Json.Reader.text
    (Glyph.ofBytes (Bytes.ofText (Json.text s).compactText)) = .ok s
  read : ∀ doc, (∃ n, Json.parse read doc = .ok n) ↔
    ∃ s, Json.parse Json.Reader.text doc = .ok s ∧ Component s
  readText : ∀ doc n, Json.parse ArtifactName.read doc = .ok n →
    Json.parse Json.Reader.text doc = .ok n.text

theorem exact : Exact where
  component n := exists_text_iff.mp ⟨n,rfl⟩
  parsed s := by simp only [parse_ok,exists_text_iff]
  parsedText _ _ := parse_ok.mp
  document := Json.Reader.parse_text
  read doc := by
    simp only [read_ok,← exists_text_iff]
    constructor
    · rintro ⟨n,h⟩
      exact ⟨n.text,h,n,rfl⟩
    · rintro ⟨_,h,n,rfl⟩
      exact ⟨n,h⟩
  readText _ _ := read_ok.mp

end ArtifactName

namespace Artifacts

open Disk

variable {root : Path} {job job' : JobId} {name name' : ArtifactName}

theorem jobFolder_names (root : Path) (job : JobId) :
    (jobFolder root job).names = root.names ++ [job.text] :=
  Path.names_join root job.own_text.toName

theorem path_text (root : Path) (job : JobId) (name : ArtifactName) :
    path root job name = jobFolder root job ++ "/" ++ name.text := by
  have hopen : (jobFolder root job).toList.getLast? ≠ some '/' :=
    of_decide_eq_false (asksForFolder_join root job.own_text)
  have hsome : jobFolder root job ≠ "" := by
    intro h
    have hnames := jobFolder_names root job
    rw [h] at hnames
    exact ne_nil job.text hnames.symm
  rw [path_eq,Path.join,if_neg]
  exact not_or.mpr ⟨hopen,hsome⟩

theorem path_names (root : Path) (job : JobId) (name : ArtifactName) :
    (path root job name).names = (jobFolder root job).names ++ [name.text] :=
  Path.names_join _ name.own.toName

/-- Where the folder of the job is. -/
def home (root : Path) (job : JobId) : List String :=
  destination (jobFolder root job)

theorem home_eq (root : Path) (job : JobId) : home root job = destination root ++ [job.text] :=
  destination_join root job.own_text

theorem destination_path (root : Path) (job : JobId) (name : ArtifactName) :
    destination (path root job name) = home root job ++ [name.text] :=
  destination_join _ name.own

/-- What is in the folder of one job is in that of no other. -/
theorem home_apart {cs : List String} (h : home root job <+: cs) (h' : home root job' <+: cs) :
    job' = job := by
  rw [home_eq] at h h'
  obtain ⟨ds,rfl⟩ := h
  rw [List.append_assoc,List.prefix_append_right_inj,List.singleton_append,
    List.cons_prefix_cons] at h'
  exact JobId.text_injective h'.1

theorem path_apart (h : destination (path root job name) = destination (path root job' name')) :
    job = job' ∧ name = name' := by
  rw [destination_path,destination_path] at h
  obtain ⟨hhome,hname⟩ := List.append_inj' h rfl
  refine ⟨?_,ArtifactName.ext (List.singleton_inj.mp hname)⟩
  have hprefix : home root job <+: home root job' := by
    rw [hhome]
  exact home_apart (List.prefix_refl (home root job')) hprefix

/-- The artifact stands right in the folder of its job, and no other artifact has its path or one that
leads to the same place. -/
structure Placed (root : Path) (job : JobId) (name : ArtifactName) : Prop where
  text : path root job name = jobFolder root job ++ "/" ++ name.text
  names : (path root job name).names = (jobFolder root job).names ++ [name.text]
  leads : destination (path root job name) = destination (jobFolder root job) ++ [name.text]
  alone : ∀ job' name', path root job name = path root job' name' ∨
    destination (path root job name) = destination (path root job' name') → job = job' ∧ name = name'

theorem placed (root : Path) (job : JobId) (name : ArtifactName) : Placed root job name where
  text := path_text root job name
  names := path_names root job name
  leads := destination_path root job name
  alone := by
    rintro job' name' (h | h)
    · exact path_apart (congrArg destination h)
    · exact path_apart h

end Artifacts

end BuildFarm
