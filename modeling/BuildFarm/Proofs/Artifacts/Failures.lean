import BuildFarm.Proofs.Artifacts.Renaming
import BuildFarm.Proofs.Artifacts.WriteOnce

namespace BuildFarm

theorem Disk.OnlyFolders.of_same {d e f : Disk} (h : OnlyFolders d e)
    (hs : ∀ cs, f.node? cs = e.node? cs) : OnlyFolders d f := by
  intro cs
  rw [hs cs]
  exact h cs

namespace Artifacts

open Disk

theorem creates_undisturbed {chunks : List Chunk} (h : ∀ c ∈ chunks, ∃ bs, c = .bytes bs)
    (name : String) (d : Disk) : Creates name d chunks := by
  induction chunks with
  | nil => trivial
  | cons c rest ih =>
    rw [List.forall_mem_cons] at h
    obtain ⟨⟨bs,rfl⟩,h⟩ := h
    exact ih h

theorem receive_alone (d : Disk) (failure : Option String) (received : Bytes)
    {chunks : List Chunk} (h : ∀ c ∈ chunks, ∃ bs, c = .bytes bs) :
    (receive none failure d received chunks).2 = d := by
  obtain ⟨r,hr,_⟩ := receive_undisturbed d d failure received h
  rw [hr]

variable {root : Path} {d : Disk} {drawn : Uuid} {job : JobId} {name : ArtifactName} {body : Body}

/-- An upload under the very name of the file that takes its bytes comes to nothing. -/
theorem upload_own {f : Disk} (hb : body.Undisturbed)
    (hopen : f.Opens folder above) (ho : Own own) (hfree : f.hasAt (folder.join own) ≠ .ok true)
    (taken : ArtifactError) (cs : List String) :
    (upload f (folder.join own) (folder.join own) taken body).2.node? cs = f.node? cs := by
  unfold upload
  cases hg : f.addFile (folder.join own) [] with
  | error x =>
    dsimp only
    rw [discard_missing hfree]
  | ok g =>
    dsimp only
    obtain ⟨hfit,all,hbeside,hopen',_⟩ :=
      Beside.opened hopen ho hg (creates_undisturbed hb own f) body.failure
    have hgone := hbeside.discard hopen' ho hfit cs
    rw [receive_alone f body.failure [] hb] at hgone
    cases hr : receive (some (folder.join own)) body.failure g [] body.chunks with
    | mk r e =>
      rw [hr] at hgone
      cases r with
      | error x => exact hgone
      | ok n =>
        dsimp only [publish] at hgone ⊢
        cases hl : e.link (folder.join own) (folder.join own) with
        | ok t => exact absurd hl (link_self e t _)
        | error x => cases x <;> exact hgone

theorem put_own_prepared (hb : body.Undisturbed)
    (hfree : (prepared root d job).hasAt (uploadPath root job drawn) ≠ .ok true)
    (hown : name.text = uploadName drawn) (cs : List String) :
    (put ⟨some root⟩ d drawn job name body).2.node? cs = (prepared root d job).node? cs := by
  have hpath : path root job name = uploadPath root job drawn := by
    rw [path_eq,hown,uploadPath_eq]
  unfold put
  unfold prepared at hfree ⊢
  dsimp only
  rw [hpath]
  cases hc : d.createFolders (jobFolder root job) with
  | mk r f =>
    rw [hc] at hfree
    cases r with
    | error x => rfl
    | ok u =>
      obtain ⟨above,hopen⟩ := createFolders_opens hc
      dsimp only at hfree ⊢
      cases ha : f.hasAt (uploadPath root job drawn) with
      | error x => rfl
      | ok there =>
        cases there with
        | true => rfl
        | false => exact upload_own hb hopen (own_uploadName drawn) hfree _ cs

/-- An upload that fails leaves nothing but folders. -/
theorem put_failed {a : Artifacts} (hb : body.Undisturbed)
    (hfree : ∀ root, a.root = some root →
      (prepared root d job).hasAt (uploadPath root job drawn) ≠ .ok true)
    (hx : (a.put d drawn job name body).1 = .error x) :
    OnlyFolders d (a.put d drawn job name body).2 := by
  obtain ⟨_ | root⟩ := a
  · have hd : (put ⟨none⟩ d drawn job name body).2 = d := by
      have hr := receive_alone d body.failure [] hb
      unfold put
      dsimp only
      generalize receive none body.failure d [] body.chunks = out at hr ⊢
      obtain ⟨r,e⟩ := out
      cases r <;> exact hr
    rw [hd]
    exact .refl d
  · have hfree := hfree root rfl
    have honly := createFolders_only d (jobFolder root job)
    by_cases hown : name.text = uploadName drawn
    · exact honly.of_same (put_own_prepared hb hfree hown)
    · obtain ⟨chunks,hs⟩ := put_refused ⟨hfree,hown,creates_undisturbed hb _ _⟩ hx
      refine honly.of_same (fun cs => (hs cs).trans ?_)
      rw [others,receive_alone _ none [] (fun c hm => hb c (List.mem_of_mem_take hm))]
      rfl

end Artifacts

end BuildFarm
