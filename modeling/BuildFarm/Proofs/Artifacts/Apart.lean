import BuildFarm.Proofs.Artifacts.Naming
import BuildFarm.Proofs.Artifacts.Parallel
import BuildFarm.Proofs.Artifacts.Steps
import BuildFarm.Proofs.Disk.Apart

namespace BuildFarm

open Disk

/-- Another writer writes a file there while the body comes in. -/
def Body.Writes (b : Body) (cs : List String) : Prop :=
  ∃ p bs, Chunk.written p bs ∈ b.chunks ∧ destination p = cs

namespace Artifacts

variable {root : Path} {job other : JobId} {d e : Disk} {others : List String → Prop}

/-- Outside the folder of the job, and apart from what others write meanwhile, nothing is changed,
added or taken away, but that folders are made to reach a root that is not there. -/
def Confined (root : Path) (job : JobId) (others : List String → Prop) (d e : Disk) : Prop :=
  ∀ cs, ¬home root job <+: cs → ¬others cs → e.node? cs = d.node? cs ∨
    d.isFolder root = false ∧ d.node? cs = none ∧ e.node? cs = some .folder

theorem isFolder_iff {p : Path} : d.isFolder p = true ↔ d.Opens p (destination p) := by
  unfold isFolder
  split
  · rename_i names hl
    obtain ⟨rfl,_⟩ := look_destination hl
    simpa using look_folder.mp hl
  · rename_i hl
    refine iff_of_false Bool.false_ne_true ?_
    intro ho
    exact hl _ (look_folder.mpr ho)

/-- To make the folder of a job no other folder is needed if the root is there. -/
theorem prepared_confined (root : Path) (d : Disk) (job : JobId) :
    Confined root job others d (prepared root d job) := by
  intro cs hcs _
  by_cases hroot : d.isFolder root = true
  · refine Or.inl ?_
    unfold prepared
    rcases createFolders_join (isFolder_iff.mp hroot) job.own_text with hd | hd
    · rw [jobFolder,hd]
    · rw [jobFolder,hd,node?_put _ _ (ne_nil job.text),if_neg]
      rintro rfl
      exact hcs (home_eq root job ▸ List.prefix_refl _)
  · rcases createFolders_only d (jobFolder root job) cs with hd | ⟨hd,hf⟩
    · exact Or.inl hd
    · exact Or.inr ⟨by simpa using hroot,hd,hf⟩

theorem Confined.spares (h : Confined root job others d e) {f : Disk}
    (hs : Spares (fun cs => ¬home root job <+: cs ∧ ¬others cs) e f) :
    Confined root job others d f := by
  intro cs hcs ho
  rw [hs cs ⟨hcs,ho⟩]
  exact h cs hcs ho

theorem put_confined (root : Path) (d : Disk) (drawn : Uuid) (job : JobId) (name : ArtifactName)
    (body : Body) :
    Confined root job body.Writes d (put ⟨some root⟩ d drawn job name body).2 := by
  have hinside {name : String} (ho : Own name) :
      home root job <+: destination ((jobFolder root job).join name) := by
    rw [destination_join _ ho]
    exact List.prefix_append _ _
  have hsteps : Steps (Spares (fun cs => ¬home root job <+: cs ∧ ¬body.Writes cs))
      (uploadPath root job drawn) (path root job name) body.chunks := {
    refl := .refl _
    trans := .trans
    addFile := .addFile (fun h => h.1 (hinside (own_uploadName drawn)))
    save := .save (fun h => h.1 (hinside (own_uploadName drawn)))
    others := fun hm => .save (fun h => h.2 ⟨_,_,hm,rfl⟩)
    link := .link (fun h => h.1 (hinside name.own))
    unlink := .unlink (fun h => h.1 (hinside (own_uploadName drawn))) }
  rcases put_cases root d drawn job name body with hput | hput <;> rw [hput]
  · exact prepared_confined root d job
  · exact (prepared_confined root d job).spares (hsteps.upload _ _)

/-- What is answered when the folder of a job has been taken away, or could not be. -/
def deleted : Except IoError Unit → Except ArtifactError Unit
  | .ok _ => .ok ()
  | .error .notFound => .ok ()
  | .error e => .error (.io e)

theorem delete_eq (root : Path) (d : Disk) (job : JobId) : delete ⟨some root⟩ d job =
    (deleted (d.removeTree (jobFolder root job)).1,(d.removeTree (jobFolder root job)).2) := by
  unfold delete
  dsimp only
  generalize d.removeTree (jobFolder root job) = out
  obtain ⟨x,e⟩ := out
  cases x with
  | ok _ => rfl
  | error x => cases x <;> rfl

theorem delete_confined (root : Path) (d : Disk) (job : JobId) :
    Confined root job (fun _ => False) d (delete ⟨some root⟩ d job).2 := by
  have hremoved : Spares (fun cs => ¬home root job <+: cs ∧ ¬False) d
      (d.removeTree (jobFolder root job)).2 := .removeTree (fun _ hcs => hcs.1)
  rw [delete_eq]
  exact fun cs hcs ho => Or.inl (hremoved cs ⟨hcs,ho⟩)

/-- Nothing outside the folder of the job makes a difference, neither what there is nor what is in it,
but that the way to the folder leads through folders. -/
def Blind (root : Path) (job : JobId) (run : Disk → α × Disk) : Prop :=
  ∀ d e, Agree (jobFolder root job) d e → Accord (jobFolder root job) (run d) (run e)

theorem put_blind (root : Path) (job : JobId) (drawn : Uuid) (name : ArtifactName) {body : Body}
    (hb : body.Undisturbed) :
    Blind root job (fun d => put ⟨some root⟩ d drawn job name body) := by
  intro d e h
  have hparallel : Parallel (Agree (jobFolder root job)) (uploadPath root job drawn)
      (uploadPath root job drawn) (path root job name) (path root job name) := {
    addFile := fun h => h.addFile_join (own_uploadName drawn) []
    save := fun bs h => h.save_join (own_uploadName drawn) bs
    link := fun h => h.link_join (own_uploadName drawn) name.own
    unlink := fun h => h.unlink_join (own_uploadName drawn) }
  have hmade := h.createFolders
  obtain ⟨hanswer,hdisk⟩ := hparallel.put (A := Eq) ⟨hmade.answer.symm,hmade.disk⟩
    (fun h => h.hasAt_join name.own) (fun _ => rfl) rfl hb
  exact ⟨hanswer.eq.symm,hdisk⟩

/-- What is told of an artifact is told by what is found at its path. -/
theorem told_by_look {name : ArtifactName}
    (h : e.look (path root job name) = d.look (path root job name)) :
    resolve ⟨some root⟩ e job name = resolve ⟨some root⟩ d job name ∧
      openNamed ⟨some root⟩ e job name = openNamed ⟨some root⟩ d job name := by
  have hresolve : resolve ⟨some root⟩ e job name = resolve ⟨some root⟩ d job name := by
    simp only [resolve,hasAt,h]
  refine ⟨hresolve,?_⟩
  unfold openNamed
  rw [hresolve]
  cases hr : resolve ⟨some root⟩ d job name with
  | error x => rfl
  | ok p =>
    have hp : p = path root job name := by
      unfold resolve at hr
      dsimp only at hr
      split at hr <;> cases hr
      rfl
    rw [ok_bind,ok_bind,hp,h]

theorem look_path (h : Agree (jobFolder root job) d e) (name : ArtifactName) :
    e.look (path root job name) = d.look (path root job name) := by
  rw [path_eq]
  exact h.look_join name.own

/-- What is only told leaves the disk alone. -/
theorem blind_of_told {tell : Disk → α}
    (h : ∀ d e, Agree (jobFolder root job) d e → tell e = tell d) :
    Blind root job (fun d => (tell d,d)) :=
  fun d e ha => ⟨h d e ha,ha⟩

theorem resolve_blind (root : Path) (job : JobId) (name : ArtifactName) :
    Blind root job (fun d => (resolve ⟨some root⟩ d job name,d)) :=
  blind_of_told (fun _ _ h => (told_by_look (look_path h name)).1)

theorem openNamed_blind (root : Path) (job : JobId) (name : ArtifactName) :
    Blind root job (fun d => (openNamed ⟨some root⟩ d job name,d)) :=
  blind_of_told (fun _ _ h => (told_by_look (look_path h name)).2)

theorem delete_blind (root : Path) (job : JobId) :
    Blind root job (fun d => delete ⟨some root⟩ d job) := by
  intro d e h
  have hremoved := h.removeTree
  dsimp only
  rw [delete_eq,delete_eq]
  exact ⟨congrArg deleted hremoved.answer,hremoved.disk⟩

/-- What a confined operation leaves of the artifacts of another job: the files, each with its content;
and what is told of them, as long as the root can be reached. -/
structure Untouched (root : Path) (other : JobId) (name : ArtifactName) (d e : Disk) : Prop where
  file : ∀ bs, e.node? (destination (path root other name)) = some (.file bs) ↔
    d.node? (destination (path root other name)) = some (.file bs)
  told : d.isFolder root = true → e.isFolder root = true →
    resolve ⟨some root⟩ e other name = resolve ⟨some root⟩ d other name ∧
      openNamed ⟨some root⟩ e other name = openNamed ⟨some root⟩ d other name

theorem Confined.untouched (h : Confined root job others d e) (hne : other ≠ job)
    (ho : ∀ cs, home root other <+: cs → ¬others cs) (name : ArtifactName) :
    Untouched root other name d e where
  file bs := by
    have hinside : home root other <+: destination (path root other name) := by
      rw [destination_path]
      exact List.prefix_append _ _
    have hout : ¬home root job <+: destination (path root other name) :=
      fun hj => hne (home_apart hj hinside)
    rcases h _ hout (ho _ hinside) with he | ⟨_,hd,he⟩
    · rw [he]
    · simp [hd,he]
  told hd he := by
    apply told_by_look
    refine look_inside (isFolder_iff.mp hd) (isFolder_iff.mp he) other.own_text name.own ?_
    intro cs hcs
    rw [← home_eq] at hcs
    rcases h cs (fun hj => hne (home_apart hj hcs)) (ho cs hcs) with hsame | ⟨hroot,_⟩
    · exact hsame
    · simp [hd] at hroot

/-- Nothing that is done for the job changes what is outside its folder, or depends on it. What is
told of an artifact leaves the disk alone. -/
structure Secluded (root : Path) (job : JobId) : Prop where
  put : ∀ d drawn name body,
    Confined root job body.Writes d (put ⟨some root⟩ d drawn job name body).2
  delete : ∀ d, Confined root job (fun _ => False) d (delete ⟨some root⟩ d job).2
  putBlind : ∀ drawn name body, body.Undisturbed →
    Blind root job (fun d => Artifacts.put ⟨some root⟩ d drawn job name body)
  resolveBlind : ∀ name, Blind root job (fun d => (resolve ⟨some root⟩ d job name,d))
  openBlind : ∀ name, Blind root job (fun d => (openNamed ⟨some root⟩ d job name,d))
  deleteBlind : Blind root job (fun d => Artifacts.delete ⟨some root⟩ d job)

theorem secluded (root : Path) (job : JobId) : Secluded root job where
  put d drawn name body := put_confined root d drawn job name body
  delete d := delete_confined root d job
  putBlind drawn name _ hb := put_blind root job drawn name hb
  resolveBlind name := resolve_blind root job name
  openBlind name := openNamed_blind root job name
  deleteBlind := delete_blind root job

/-- However it is made, the name of an artifact is one component of a path; so the artifact stands
right in the folder of its job, in a place of its own. What is done for a job stays within that
folder, and whatever other jobs have is left as it is. -/
theorem jobs_apart (root : Path) (job : JobId) :
    ArtifactName.Exact ∧ (∀ name, Placed root job name) ∧ Secluded root job ∧
    ∀ d e others, Confined root job others d e → ∀ other ≠ job,
      (∀ cs, home root other <+: cs → ¬others cs) → ∀ name, Untouched root other name d e :=
  ⟨ArtifactName.exact,placed root job,secluded root job,
    fun _ _ _ h _ hne ho name => h.untouched hne ho name⟩

namespace Sample

def tenant : JobId := ⟨.ofNat 1⟩

def neighbour : JobId := ⟨.ofNat 2⟩

def report : ArtifactName := ⟨"report",by decide⟩

/-- Two jobs have a file of the same name. -/
def shared : Disk :=
  ⟨[(["a"],.folder),(["a",tenant.text],.folder),(["a",tenant.text,"report"],.file [1]),
    (["a",neighbour.text],.folder),(["a",neighbour.text,"report"],.file [2])]⟩

/-- The same without the file of the second job. -/
def halved : Disk :=
  shared.erase ["a",neighbour.text,"report"]

theorem shared_ordered : shared.Ordered := by
  unfold Ordered
  decide +kernel

theorem halved_agrees : Agree (jobFolder "a" tenant) shared halved := by
  have hsame {cs : List String} (hcs : cs ≠ ["a",neighbour.text,"report"]) :
      halved.node? cs = shared.node? cs := node?_erase _ hcs.symm
  refine ⟨?_,?_,shared_ordered,shared_ordered.erase _⟩
  · rintro cs ⟨k,rfl⟩
    rw [hsame]
    · exact kind_refl _
    · have hnames : (jobFolder "a" tenant).names = ["a",tenant.text] := by decide +kernel
      rw [hnames]
      rcases k with _ | _ | k
      · decide +kernel
      · decide +kernel
      · rw [List.take_of_length_le (by simp)]
        decide +kernel
  · intro cs hcs
    apply hsame
    rintro rfl
    revert hcs
    decide +kernel

end Sample

/-- The upload under a name that is taken is refused whatever the other job has, whose file stays when
the folder of the first is deleted. -/
theorem jobs_apart_neighbour :
    (put ⟨some "a"⟩ Sample.halved (.ofNat 3) Sample.tenant Sample.report .empty).1 =
      (put ⟨some "a"⟩ Sample.shared (.ofNat 3) Sample.tenant Sample.report .empty).1 ∧
    resolve ⟨some "a"⟩ (delete ⟨some "a"⟩ Sample.shared Sample.tenant).2 Sample.neighbour
        Sample.report = .ok (path "a" Sample.neighbour Sample.report) := by
  obtain ⟨_,_,hsecluded,huntouched⟩ := jobs_apart "a" Sample.tenant
  have hput := hsecluded.putBlind (.ofNat 3) Sample.report .empty nofun _ _ Sample.halved_agrees
  have hleft := huntouched _ _ _ (hsecluded.delete Sample.shared) Sample.neighbour (by decide)
    (fun _ _ h => h) Sample.report
  refine ⟨hput.answer,?_⟩
  rw [(hleft.told (by decide +kernel) (by decide +kernel)).1]
  decide +kernel

end Artifacts

end BuildFarm
