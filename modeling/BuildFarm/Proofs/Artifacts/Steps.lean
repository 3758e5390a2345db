import BuildFarm.Proofs.Artifacts.Upload

namespace BuildFarm

namespace Artifacts

/-- A relation between disks that every write of an upload keeps: those to its temporary file, that
of the artifact, and those of other writers. -/
structure Steps (R : Disk → Disk → Prop) (temp target : Path) (chunks : List Chunk) : Prop where
  refl : ∀ d, R d d
  trans : ∀ {d e f}, R d e → R e f → R d f
  addFile : ∀ {d e : Disk}, d.addFile temp [] = .ok e → R d e
  save : ∀ {d e : Disk} {bs}, d.save temp bs = .ok e → R d e
  others : ∀ {d e : Disk} {p bs}, .written p bs ∈ chunks → d.save p bs = .ok e → R d e
  link : ∀ {d e : Disk}, d.link temp target = .ok e → R d e
  unlink : ∀ {d e : Disk}, d.unlink temp = .ok e → R d e

namespace Steps

variable {R : Disk → Disk → Prop} {temp target : Path} {all chunks : List Chunk}

theorem receive (h : Steps R temp target all) (hc : ∀ c ∈ chunks, c ∈ all) (d : Disk)
    (failure : Option String) (received : Bytes) :
    R d (receive (some temp) failure d received chunks).2 := by
  induction chunks generalizing d received with
  | nil =>
    unfold Artifacts.receive
    cases failure <;> exact h.refl d
  | cons c rest ih =>
    rw [List.forall_mem_cons] at hc
    obtain ⟨hm,hc⟩ := hc
    unfold Artifacts.receive
    cases c with
    | bytes bs =>
      dsimp only
      cases hs : d.save temp (received ++ bs) with
      | error x => exact h.refl d
      | ok e => exact h.trans (h.save hs) (ih hc e _)
    | written p bs =>
      dsimp only
      cases hs : d.save p bs with
      | error x => exact h.refl d
      | ok e => exact h.trans (h.others hm hs) (ih hc e _)

theorem discard (h : Steps R temp target all) (d : Disk) : R d (discard d temp) := by
  unfold Artifacts.discard
  cases hu : d.unlink temp with
  | error x => exact h.refl d
  | ok e => exact h.unlink hu

theorem publish (h : Steps R temp target all) (d : Disk) : R d (publish d temp target).2 := by
  unfold Artifacts.publish
  cases hl : d.link temp target with
  | error x => exact h.discard d
  | ok e => exact h.trans (h.link hl) (h.discard e)

theorem upload {body : Body} (h : Steps R temp target body.chunks) (d : Disk)
    (taken : ArtifactError) : R d (upload d temp target taken body).2 := by
  unfold Artifacts.upload
  cases ha : d.addFile temp [] with
  | error x => exact h.discard d
  | ok e =>
    have hreceived := h.receive (fun _ hc => hc) e body.failure []
    dsimp only
    generalize Artifacts.receive (some temp) body.failure e [] body.chunks = out at hreceived ⊢
    obtain ⟨x,f⟩ := out
    have hcome := h.trans (h.addFile ha) hreceived
    cases x with
    | error x => exact h.trans hcome (h.discard f)
    | ok n =>
      have hpublished := h.trans hcome (h.publish f)
      dsimp only at hpublished ⊢
      generalize Artifacts.publish f temp target = out at hpublished ⊢
      obtain ⟨x,g⟩ := out
      cases x with
      | ok _ => exact hpublished
      | error x => cases x <;> exact hpublished

end Steps

/-- Once the folder of the job is made, the upload is either refused or takes place. -/
theorem put_cases (root : Path) (d : Disk) (drawn : Uuid) (job : JobId) (name : ArtifactName)
    (body : Body) : (put ⟨some root⟩ d drawn job name body).2 = prepared root d job ∨
      (put ⟨some root⟩ d drawn job name body).2 =
        (upload (prepared root d job) (uploadPath root job drawn) (path root job name)
          (.alreadyExists job name) body).2 := by
  unfold put prepared
  dsimp only
  generalize d.createFolders (jobFolder root job) = out
  obtain ⟨x,e⟩ := out
  cases x with
  | error x => exact Or.inl rfl
  | ok _ =>
    dsimp only
    cases e.hasAt (path root job name) with
    | error x => exact Or.inl rfl
    | ok there =>
      cases there with
      | true => exact Or.inl rfl
      | false => exact Or.inr rfl

end Artifacts

end BuildFarm
