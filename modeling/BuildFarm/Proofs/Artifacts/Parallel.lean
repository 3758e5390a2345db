import BuildFarm.Artifacts
import BuildFarm.Proofs.Disk.Renaming

namespace BuildFarm

/-- A body that comes in with no other writer at work. -/
def Body.Undisturbed (b : Body) : Prop :=
  ∀ c ∈ b.chunks, ∃ bs, c = .bytes bs

theorem Body.undisturbed_ofBytes (bs : Bytes) : (Body.ofBytes bs).Undisturbed := by
  intro c hc
  exact ⟨bs,List.mem_singleton.mp hc⟩

theorem Both.eq {x y : Except ε α} (h : Both Eq Eq x y) : x = y := by
  cases h with
  | ok h => exact congrArg Except.ok h
  | error h => exact congrArg Except.error h

namespace Artifacts

open Disk

/-- The writes of two uploads keep the relation between their disks, each with its counterpart. -/
structure Parallel (R : Disk → Disk → Prop) (temp temp' target target' : Path) : Prop where
  addFile : ∀ {d e : Disk}, R d e → Both Eq R (d.addFile temp []) (e.addFile temp' [])
  save : ∀ {d e : Disk} (bs), R d e → Both Eq R (d.save temp bs) (e.save temp' bs)
  link : ∀ {d e : Disk}, R d e → Both Eq R (d.link temp target) (e.link temp' target')
  unlink : ∀ {d e : Disk}, R d e → Both Eq R (d.unlink temp) (e.unlink temp')

namespace Parallel

variable {R : Disk → Disk → Prop} {temp temp' target target' : Path} {d e : Disk}

theorem receive (h : Parallel R temp temp' target target') (hr : R d e) (failure : Option String)
    (received : Bytes) {chunks : List Chunk} (hc : ∀ c ∈ chunks, ∃ bs, c = .bytes bs) :
    (receive (some temp) failure d received chunks).1 =
      (receive (some temp') failure e received chunks).1 ∧
    R (receive (some temp) failure d received chunks).2
      (receive (some temp') failure e received chunks).2 := by
  induction chunks generalizing d e received with
  | nil =>
    unfold Artifacts.receive
    cases failure <;> exact ⟨rfl,hr⟩
  | cons c rest ih =>
    rw [List.forall_mem_cons] at hc
    obtain ⟨⟨bs,rfl⟩,hc⟩ := hc
    have hs := h.save (received ++ bs) hr
    unfold Artifacts.receive
    dsimp only
    generalize d.save temp (received ++ bs) = x at hs ⊢
    generalize e.save temp' (received ++ bs) = y at hs ⊢
    cases hs with
    | ok hr => exact ih hr _ hc
    | error he => exact ⟨congrArg Except.error he,hr⟩

theorem discard (h : Parallel R temp temp' target target') (hr : R d e) :
    R (discard d temp) (discard e temp') := by
  have hu := h.unlink hr
  unfold Artifacts.discard
  generalize d.unlink temp = x at hu ⊢
  generalize e.unlink temp' = y at hu ⊢
  cases hu with
  | ok hr => exact hr
  | error _ => exact hr

theorem publish (h : Parallel R temp temp' target target') (hr : R d e) :
    (publish d temp target).1 = (publish e temp' target').1 ∧
      R (publish d temp target).2 (publish e temp' target').2 := by
  have hk := h.link hr
  unfold Artifacts.publish
  generalize d.link temp target = x at hk ⊢
  generalize e.link temp' target' = y at hk ⊢
  cases hk with
  | ok hr => exact ⟨rfl,h.discard hr⟩
  | error he => exact ⟨congrArg Except.error he,h.discard hr⟩

variable {A : ArtifactError → ArtifactError → Prop} {body : Body}

theorem upload (h : Parallel R temp temp' target target') (hr : R d e) (io : ∀ x, A (.io x) (.io x))
    {taken taken' : ArtifactError} (ht : A taken taken') (hb : body.Undisturbed) :
    Both A Eq (upload d temp target taken body).1 (upload e temp' target' taken' body).1 ∧
      R (upload d temp target taken body).2 (upload e temp' target' taken' body).2 := by
  have ha := h.addFile hr
  unfold Artifacts.upload
  generalize d.addFile temp [] = x at ha ⊢
  generalize e.addFile temp' [] = y at ha ⊢
  cases ha with
  | error he => exact ⟨.error (he ▸ io _),h.discard hr⟩
  | @ok d e hr =>
    obtain ⟨hx,hr⟩ := h.receive hr body.failure [] hb
    dsimp only
    generalize Artifacts.receive (some temp) body.failure d [] body.chunks = x at hx hr ⊢
    generalize Artifacts.receive (some temp') body.failure e [] body.chunks = y at hx hr ⊢
    obtain ⟨x,d⟩ := x
    obtain ⟨y,e⟩ := y
    cases hx
    cases x with
    | error f => exact ⟨.error (io _),h.discard hr⟩
    | ok n =>
      obtain ⟨hp,hr⟩ := h.publish hr
      dsimp only at hr ⊢
      generalize Artifacts.publish d temp target = x at hp hr ⊢
      generalize Artifacts.publish e temp' target' = y at hp hr ⊢
      obtain ⟨x,d⟩ := x
      obtain ⟨y,e⟩ := y
      cases hp
      cases x with
      | ok _ => exact ⟨.ok rfl,hr⟩
      | error f =>
        cases f
        case «exists» => exact ⟨.error ht,hr⟩
        all_goals exact ⟨.error (io _),hr⟩

variable {root : Path} {job job' : JobId} {name : ArtifactName} {drawn : Uuid}

theorem put (h : Parallel R (uploadPath root job drawn) (uploadPath root job' drawn)
      (path root job name) (path root job' name))
    (made : (d.createFolders (jobFolder root job)).1 = (e.createFolders (jobFolder root job')).1 ∧
      R (d.createFolders (jobFolder root job)).2 (e.createFolders (jobFolder root job')).2)
    (found : ∀ {d e : Disk}, R d e → e.hasAt (path root job' name) = d.hasAt (path root job name))
    (io : ∀ x, A (.io x) (.io x)) (ht : A (.alreadyExists job name) (.alreadyExists job' name))
    (hb : body.Undisturbed) :
    Both A Eq (put ⟨some root⟩ d drawn job name body).1 (put ⟨some root⟩ e drawn job' name body).1 ∧
      R (put ⟨some root⟩ d drawn job name body).2 (put ⟨some root⟩ e drawn job' name body).2 := by
  unfold Artifacts.put
  dsimp only
  generalize d.createFolders (jobFolder root job) = x at made ⊢
  generalize e.createFolders (jobFolder root job') = y at made ⊢
  obtain ⟨x,d⟩ := x
  obtain ⟨y,e⟩ := y
  obtain ⟨hc,hr⟩ := made
  cases hc
  cases x with
  | error f => exact ⟨.error (io _),hr⟩
  | ok _ =>
    dsimp only at hr ⊢
    rw [found hr]
    cases d.hasAt (path root job name) with
    | error f => exact ⟨.error (io _),hr⟩
    | ok there =>
      cases there with
      | true => exact ⟨.error ht,hr⟩
      | false => exact h.upload hr io ht hb

end Parallel

end Artifacts

end BuildFarm
