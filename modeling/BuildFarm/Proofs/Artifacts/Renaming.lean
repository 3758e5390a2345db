import BuildFarm.Proofs.Artifacts.Parallel
import BuildFarm.Proofs.Artifacts.Upload
import BuildFarm.Proofs.Store.Names

namespace BuildFarm

open Disk

/-- Errors of an upload that are the same but for the job of a name that is taken. -/
inductive ArtifactError.Alike (ρ : JobId → JobId) : ArtifactError → ArtifactError → Prop
  | io (e : IoError) : Alike ρ (.io e) (.io e)
  | taken (job : JobId) (name : ArtifactName) :
    Alike ρ (.alreadyExists job name) (.alreadyExists (ρ job) name)

namespace Artifacts

variable {m : Renaming} {ρ : Equiv.Perm JobId} {d e : Disk} {temp temp' target target' : Path}

/-- The folder of the artifacts, in whose own folders names stay. -/
structure Keeps (ρ : Equiv.Perm JobId) (m : Renaming) (root : Path) : Prop
    extends Houses ρ m root where
  inner : ∀ job : JobId, destination root ++ [job.text] ∉ m.places

namespace Keeps

variable {root : Path}

theorem folder (h : Keeps ρ m root) (job : JobId) :
    m.Leads (jobFolder root job) (jobFolder root (ρ job)) := by
  have hl := h.leads .folder job
  rwa [Keepsake.name_folder,Keepsake.name_folder] at hl

theorem inside (h : Keeps ρ m root) (job : JobId) {name : String} (ho : Own name) :
    m.Leads ((jobFolder root job).join name) ((jobFolder root (ρ job)).join name) := by
  have hn : m.named (destination (jobFolder root job)) name = name := by
    rw [jobFolder,destination_join root job.own_text]
    exact if_neg (h.inner job)
  have hl := (h.folder job).join ho (hn.symm ▸ ho)
  rwa [hn] at hl

end Keeps

/-- With nowhere to write to, a body leaves the disk alone and comes to the same everywhere. -/
theorem receive_undisturbed (d e : Disk) (failure : Option String) (received : Bytes)
    {chunks : List Chunk} (hc : ∀ c ∈ chunks, ∃ bs, c = .bytes bs) :
    ∃ r, receive none failure d received chunks = (r,d) ∧
      receive none failure e received chunks = (r,e) := by
  induction chunks generalizing received with
  | nil =>
    unfold receive
    cases failure <;> exact ⟨_,rfl,rfl⟩
  | cons c rest ih =>
    rw [List.forall_mem_cons] at hc
    obtain ⟨⟨bs,rfl⟩,hc⟩ := hc
    exact ih _ hc

theorem parallel_renamed (l : m.Leads temp temp') (l' : m.Leads target target') :
    Parallel (Renamed m) temp temp' target target' where
  addFile h := h.addFile l [] []
  save bs h := h.save l bs bs
  link h := h.link l l'
  unlink h := h.unlink l

/-- An upload for a job, and the same for the job of the other id. -/
theorem put_renamed (a : Artifacts) (ha : ∀ root, a.root = some root → Keeps ρ m root)
    (h : Renamed m d e) (drawn : Uuid) (job : JobId) (name : ArtifactName) {body : Body}
    (hb : body.Undisturbed) :
    Outcomes m (Both (ArtifactError.Alike ρ) Eq) (a.put d drawn job name body)
      (a.put e drawn (ρ job) name body) := by
  obtain ⟨_ | root⟩ := a
  · obtain ⟨r,hd,he⟩ := receive_undisturbed d e body.failure [] hb
    unfold put
    dsimp only
    rw [hd,he]
    cases r with
    | ok n => exact ⟨.ok rfl,h⟩
    | error f => exact ⟨.error (.io _),h⟩
  · have hk := ha root rfl
    obtain ⟨hc,hmade⟩ := h.createFolders (hk.folder job)
    have hparallel : Parallel (Renamed m) (uploadPath root job drawn)
        (uploadPath root (ρ job) drawn) (path root job name) (path root (ρ job) name) :=
      parallel_renamed (hk.inside job (own_uploadName drawn)) (hk.inside job name.own)
    obtain ⟨hanswer,hdisk⟩ := hparallel.put ⟨hc,hmade⟩ (fun h => h.hasAt (hk.inside job name.own))
      ArtifactError.Alike.io (.taken job name) hb
    exact ⟨hanswer,hdisk⟩

end Artifacts

end BuildFarm
