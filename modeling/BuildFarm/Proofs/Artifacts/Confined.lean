import BuildFarm.Proofs.Artifacts.Renaming
import BuildFarm.Proofs.Artifacts.Steps
import BuildFarm.Proofs.Disk.Within

namespace BuildFarm

namespace Artifacts

open Disk

theorem put_within (root : Path) (d : Disk) (drawn : Uuid) (job : JobId) (name : ArtifactName)
    {body : Body} (hb : body.Undisturbed) :
    Within (destination (jobFolder root job)) d
      (put ⟨some root⟩ d drawn job name body).2 := by
  have hmade : Within (destination (jobFolder root job)) d (prepared root d job) :=
    Within.of_only (createFolders_only d (jobFolder root job)) _
  have hsteps : Steps (Within (destination (jobFolder root job))) (uploadPath root job drawn)
      (path root job name) body.chunks := {
    refl := .refl _
    trans := .trans
    addFile := .addFile (own_uploadName drawn)
    save := .save (own_uploadName drawn)
    others := by
      intro d e p bs hm
      obtain ⟨_,hbytes⟩ := hb _ hm
      cases hbytes
    link := .link name.own
    unlink := .unlink (own_uploadName drawn) }
  rcases put_cases root d drawn job name body with hput | hput <;> rw [hput]
  · exact hmade
  · exact hmade.trans (hsteps.upload _ _)

end Artifacts

end BuildFarm
