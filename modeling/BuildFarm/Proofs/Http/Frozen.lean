import BuildFarm.Proofs.Artifacts.Confined
import BuildFarm.Proofs.Http.Quiet
import BuildFarm.Proofs.Queue.Lasting
import BuildFarm.Proofs.Queue.Records
import BuildFarm.Proofs.Store.Confined
import BuildFarm.Proofs.Store.Opening

namespace BuildFarm

namespace Services

open Disk Http Artifacts

/-- There is this file below the folder of the job's artifacts. -/
def Holds (s : Services) (job : JobId) (names : List String) (bs : Bytes) : Prop :=
  ∃ root, s.artifacts.root = some root ∧ names ≠ [] ∧
    s.disk.node? (destination (jobFolder root job) ++ names) = some (.file bs)

/-- The artifacts of the job are the same files, and what could be read of them still can be. -/
structure Frozen (s t : Services) (job : JobId) : Prop where
  root : t.artifacts = s.artifacts
  files : ∀ names bs, t.Holds job names bs ↔ s.Holds job names bs
  readable : ∀ root name bs, s.artifacts.root = some root →
    s.disk.contents (path root job name) = .ok bs → t.disk.contents (path root job name) = .ok bs

namespace Frozen

variable {s t u : Services} {job : JobId}

theorem refl (s : Services) (job : JobId) : Frozen s s job :=
  ⟨rfl,fun _ _ => Iff.rfl,fun _ _ _ _ h => h⟩

theorem trans (h : Frozen s t job) (k : Frozen t u job) : Frozen s u job where
  root := k.root.trans h.root
  files names bs := (k.files names bs).trans (h.files names bs)
  readable root name bs hr hc :=
    k.readable root name bs ((congrArg Artifacts.root h.root).trans hr)
      (h.readable root name bs hr hc)

theorem of_disk (ha : t.artifacts = s.artifacts) (hd : t.disk = s.disk) : Frozen s t job := by
  refine ⟨ha,?_,?_⟩
  · intro names bs
    unfold Holds
    rw [ha,hd]
  · intro root name bs _ hc
    rw [hd]
    exact hc

/-- What is written in a folder that is no part of the job's leaves its artifacts alone. -/
theorem of_within {above : List String} (ha : t.artifacts = s.artifacts)
    (hw : Within above s.disk t.disk)
    (apart : ∀ root names, s.artifacts.root = some root → names ≠ [] →
      ¬Inside above (destination (jobFolder root job) ++ names)) : Frozen s t job := by
  refine ⟨ha,?_,?_⟩
  · intro names bs
    unfold Holds
    rw [ha]
    apply exists_congr
    intro root
    apply and_congr_right
    intro hr
    apply and_congr_right
    intro hn
    exact hw.files _ bs (apart root names hr hn)
  · intro root name bs hr hc
    apply hw.contents _ hc
    rw [path_eq,destination_join _ name.own]
    exact apart root [name.text] hr (List.cons_ne_nil _ _)

end Frozen

/-- What is directly in a folder that is not below another is not below the other either. -/
theorem not_inside_home {home below names : List String}
    (apart : ∀ names, home ≠ below ++ names) (hn : names ≠ []) :
    ¬Inside home (below ++ names) := by
  rintro ⟨name,he⟩
  have hd := congrArg List.dropLast he
  rw [List.dropLast_append_of_ne_nil hn,List.dropLast_concat] at hd
  exact apart names.dropLast hd.symm

theorem not_inside_other {job other : JobId} (hj : other ≠ job) (root : Path)
    (names : List String) :
    ¬Inside (destination (jobFolder root other)) (destination (jobFolder root job) ++ names) := by
  rintro ⟨name,he⟩
  rw [jobFolder,jobFolder,destination_join root job.own_text,
    destination_join root other.own_text,List.append_assoc,List.append_assoc] at he
  have hhead := List.append_cancel_left he
  exact hj (JobId.text_injective (List.cons.inj hhead).1.symm)

/-- The store keeps its files out of the folders of artifacts, and live tokens name running jobs. -/
structure Housed (root : Path) (s : Services) : Prop where
  regular : s.queue.Regular
  matched : ∃ past es, Queue.Matched past es s.queue
  configured : s.artifacts.root = some root
  apart : ∀ home, s.queue.store.root = some home → ∀ (job : JobId) names,
    destination home ≠ destination (jobFolder root job) ++ names

namespace Housed

variable {root : Path} {s : Services}

theorem running {job : JobId} (h : Housed root s) {r : Request} (hp : s.Puts r job) :
    s.queue.store.Running job := by
  obtain ⟨_,_,hm⟩ := h.matched
  obtain ⟨_,_,_,_,_,hl⟩ := hp.claim
  exact hm.live hl

theorem withDisk (h : Housed root s) (d : Disk) : Housed root (s.withDisk d) := by
  obtain ⟨past,es,hm⟩ := h.matched
  exact ⟨h.regular.onDisk d,⟨past,es,hm.onDisk d⟩,h.configured,h.apart⟩

theorem call_confined (s : Services) (a : Action) :
    Store.Confined s.queue.store (s.call a).queue.store :=
  Queue.step_lasting (Store.confined_lasting s.queue.store) (.of_disk rfl rfl) a

theorem call (h : Housed root s) (a : Action) : Housed root (s.call a) := by
  obtain ⟨past,es,hm⟩ := h.matched
  have he := (Queue.step_effect h.regular a).2.2
  refine ⟨Queue.step_regular h.regular a,⟨_,_,he.matched h.regular hm⟩,h.configured,?_⟩
  intro home hr
  exact h.apart home ((call_confined s a).root.symm.trans hr)

theorem comes {r : Request} {t : Services} (h : Housed root s) (ht : Server.Comes s r t) :
    Housed root t := by
  cases ht with
  | nothing => exact h
  | call a => exact h.call a
  | put _ drawn name => exact h.withDisk _

theorem does (h : Housed root s) (access : Access) {d : Deed} (hd : d.Quiet) :
    Housed root (s.does access d) := by
  cases d with
  | call a => exact h.call a
  | request o r => exact h.comes (Server.handle_comes access s o hd)

theorem after (h : Housed root s) (access : Access) {run : List Deed} (hr : ∀ d ∈ run, d.Quiet) :
    Housed root (s.after access run) :=
  after_kept (fun _ d hd ht => ht.does access (hr d hd)) h

/-- A call of the queue changes no artifacts. -/
theorem call_frozen (h : Housed root s) (a : Action) (job : JobId) : Frozen s (s.call a) job := by
  have hc := call_confined s a
  cases hr : s.queue.store.root with
  | none => exact .of_disk rfl (hc.memory hr)
  | some home =>
    apply Frozen.of_within (s := s) (t := s.call a) rfl (hc.folder home hr)
    intro other names ho hn
    cases h.configured.symm.trans ho
    exact not_inside_home (h.apart home hr job) hn

/-- An upload for another job does not either. -/
theorem stored_frozen (h : Housed root s) {job other : JobId} (hj : other ≠ job) (drawn : Uuid)
    (name : ArtifactName) {body : Body} (hb : body.Undisturbed) :
    Frozen s (s.stored drawn other name body) job := by
  have ha : s.artifacts = ⟨some root⟩ := by
    rw [← h.configured]
  have hw := put_within root s.disk drawn other name hb
  rw [← ha] at hw
  apply Frozen.of_within (s := s) (t := s.stored drawn other name body) rfl hw
  intro root' names hr _
  cases h.configured.symm.trans hr
  exact not_inside_other hj root names

theorem does_frozen (h : Housed root s) (access : Access) {d : Deed} (hd : d.Quiet) (job : JobId) :
    Frozen s (s.does access d) job ∨
    (∃ o r, d = .request o r ∧ s.Puts r job) ∧
      (s.does access d).queue.store.index = s.queue.store.index := by
  cases d with
  | call a => exact Or.inl (h.call_frozen a job)
  | request o r =>
    have hc : Server.Comes s r (s.does access (.request o r)) := Server.handle_comes access s o hd
    generalize s.does access (.request o r) = t at hc ⊢
    cases hc with
    | nothing => exact Or.inl (.refl s job)
    | call a => exact Or.inl (h.call_frozen a job)
    | @put other puts drawn name =>
      by_cases hj : other = job
      · subst hj
        exact Or.inr ⟨⟨o,r,rfl,puts⟩,rfl⟩
      · exact Or.inl (h.stored_frozen hj drawn name hd)

theorem does_record (h : Housed root s) (access : Access) {d : Deed} (hd : d.Quiet)
    (found : s.queue.store.find? job = some r) :
    ∃ r', (s.does access d).queue.store.find? job = some r' ∧ r.Becomes r' := by
  have hcall (a : Action) : ∃ r', (s.call a).queue.store.find? job = some r' ∧ r.Becomes r' :=
    (Queue.step_effect h.regular a).2.2.record found
  cases d with
  | call a => exact hcall a
  | request o q =>
    have hc : Server.Comes s q (s.does access (.request o q)) := Server.handle_comes access s o hd
    generalize s.does access (.request o q) = t at hc ⊢
    cases hc with
    | nothing => exact ⟨r,found,.refl r⟩
    | call a => exact hcall a
    | put _ drawn name => exact ⟨r,found,.refl r⟩

/-- The job does not run, so no live token stands for it, and no request is an upload for it. -/
theorem ended_frozen (h : Housed root s) (access : Access) {job : JobId} {r : Job}
    (found : s.queue.store.find? job = some r) (ended : r.status.isTerminal = true)
    {run : List Deed} (hr : ∀ d ∈ run, d.Quiet) :
    Frozen s (s.after access run) job ∧
    ∃ r', (s.after access run).queue.store.find? job = some r' ∧ r'.status = r.status := by
  refine (after_kept (P := fun t => Housed root t ∧ Frozen s t job ∧
    ∃ r', t.queue.store.find? job = some r' ∧ r'.status = r.status) ?_
    ⟨h,.refl s job,r,found,rfl⟩).2
  rintro t d hd ⟨ht,hfrozen,r',found',hs⟩
  have hended : r'.status.isTerminal = true := hs ▸ ended
  refine ⟨ht.does access (hr d hd),hfrozen.trans ?_,?_⟩
  · rcases ht.does_frozen access (hr d hd) job with hf | ⟨⟨o,q,_,hp⟩,_⟩
    · exact hf
    · obtain ⟨k,hk,hrun⟩ := ht.running hp
      cases found'.symm.trans hk
      rw [hrun] at hended
      cases hended
  · obtain ⟨k,hk,hb⟩ := ht.does_record access (hr d hd) found'
    exact ⟨k,hk,(hb.settled hended).1.trans hs⟩

end Housed

/-- What is built without records has no tokens either, and the folder of its store is there. -/
theorem build_start {c : Config} {disk folder : Disk} {i : Services}
    (built : build c disk = (.ok i,folder)) (empty : i.queue.store.index = .empty) :
    ∃ home, i = start folder home ⟨c.artifacts⟩ ∧
      ∀ p, home = some p → folder.node? (destination p) = some .folder := by
  unfold build at built
  cases hc : c.store with
  | memory =>
    rw [hc] at built
    cases built
    exact ⟨none,rfl,nofun⟩
  | filesystem home =>
    rw [hc] at built
    dsimp only at built
    cases ho : Store.openAt home disk with
    | mk x e =>
      rw [ho] at built
      cases x with
      | error f => cases built
      | ok t =>
        cases built
        obtain ⟨_,entries,hl,ix,_,rfl⟩ := Store.openAt_cases ho
        obtain rfl : ix = .empty := empty
        refine ⟨some home,rfl,?_⟩
        rintro _ ⟨⟩
        obtain ⟨above,hopen⟩ := opens_of_list hl
        obtain ⟨rfl,hn⟩ := look_destination (look_folder.mpr hopen)
        exact hn

theorem housed_build {c : Config} {disk folder : Disk} {i : Services} {root : Path}
    (built : build c disk = (.ok i,folder)) (configured : c.artifacts = some root)
    (empty : i.queue.store.index = .empty)
    (bare : ∀ (job : JobId) names,
      folder.node? (destination (jobFolder root job) ++ names) = none) :
    Housed root i := by
  obtain ⟨home,rfl,hhome⟩ := build_start built empty
  refine ⟨Queue.start_regular folder home,⟨[],[],Queue.matched_start folder home⟩,configured,?_⟩
  intro p hp job names he
  have hn := hhome p hp
  rw [he,bare job names] at hn
  cases hn

/-- From services without records or artifacts on, the artifacts of a job change only by uploads
under a token that is live and stands for it, hence only while it runs; once it has come to an end
they stay as they are; and an upload under a token that is retired or not known changes nothing. -/
theorem artifacts_frozen {c : Config} {disk folder : Disk} {i s : Services} {root : Path}
    (built : build c disk = (.ok i,folder)) (configured : c.artifacts = some root)
    (empty : i.queue.store.index = .empty)
    (bare : ∀ (job : JobId) names,
      folder.node? (destination (jobFolder root job) ++ names) = none)
    (access : Access) {past : List Deed} (quiet : ∀ d ∈ past, d.Quiet)
    (reached : i.after access past = s) :
    (∀ d job, d.Quiet → ¬Frozen s (s.does access d) job →
      (∃ o r, d = .request o r ∧ s.Puts r job) ∧ s.queue.store.Running job ∧
        (s.does access d).queue.store.Running job) ∧
    (∀ job r, s.queue.store.find? job = some r → r.status = .finished ∨ r.status = .failed →
      ∀ future, (∀ d ∈ future, d.Quiet) → Frozen s (s.after access future) job ∧
        ∃ r', (s.after access future).queue.store.find? job = some r' ∧ r'.status = r.status) ∧
    ∀ o r token name, Endpoint.ofPath? r.path = some (.artifact token name) →
      (∀ t, Server.tokenOf token = .ok t → s.queue.tokens.Spent t) →
      (Server.handle access s o r).2 = s := by
  have h : Housed root s := reached ▸ (housed_build built configured empty bare).after access quiet
  refine ⟨?_,?_,?_⟩
  · intro d job hd hn
    obtain ⟨⟨o,r,rfl,hp⟩,hi⟩ := (h.does_frozen access hd job).resolve_left hn
    have hrun := h.running hp
    refine ⟨⟨o,r,rfl,hp⟩,hrun,?_⟩
    unfold Store.Running
    rw [Store.find?_congr hi]
    exact hrun
  · intro job r found ended future hq
    apply h.ended_frozen access found _ hq
    rcases ended with hs | hs <;> simp [hs,JobStatus.isTerminal]
  · intro o r token name hp ht
    exact Server.handle_spent h.regular.sound hp ht access o

namespace Sample

open Queue.Sample

def config : Config := ⟨Config.defaultListen,.memory,some "r",[],none⟩

def conclusion : Deed := .call (.conclude (reading 1) (ticket 1) none (some (.text "done")))

/-- A worker uploads an artifact and concludes its claim. -/
def delivery : List Deed :=
  [.call (.enqueue parent .epoch ⟨"build","x86"⟩ .null []),.request occasion wanted,
    .request occasion parcel,conclusion]

theorem config_built : build config .empty = (.ok empty,.empty) := rfl

theorem delivery_quiet : ∀ d ∈ delivery, d.Quiet := by
  simp only [delivery,List.forall_mem_cons]
  exact ⟨trivial,Body.undisturbed_ofBytes _,Body.undisturbed_ofBytes _,trivial,nofun⟩

theorem bare (job : JobId) (names : List String) :
    Disk.empty.node? (destination (jobFolder "r" job) ++ names) = none := by
  rw [jobFolder,destination_join "r" job.own_text]
  simp [node?,Disk.empty,Table.find?]

theorem does_request (access : Access) (s : Services) (o : Occasion) (r : Request) :
    s.does access (.request o r) = (take access s (.request o r)).2 := rfl

theorem delivery_after : empty.after .everyone delivery = stored.does .everyone conclusion := by
  have he : empty.does .everyone (.call (.enqueue parent .epoch ⟨"build","x86"⟩ .null [])) =
      waiting := rfl
  have hw : waiting.does .everyone (.request occasion wanted) = claimed := by
    rw [does_request,take_wanted]
  have hp : claimed.does .everyone (.request occasion parcel) = stored := by
    rw [does_request,take_kept live_claimed put_first rfl,stored]
  simp only [delivery,after,he,hw,hp]

theorem delivered_found :
    (stored.does .everyone conclusion).queue.store.find? parent = some built := by
  have hl : stored.queue.tokens.resolveLive (ticket 1) = .ok parent := by
    simp [Registry.resolveLive_ok,stored,claimed,withDisk,holding,bound]
  simp only [conclusion,does,call,Queue.step,Queue.conclude,hl]
  rfl

theorem delivered_holds : (stored.does .everyone conclusion).Holds parent ["x"] [1] := by
  have hd : (stored.does .everyone conclusion).disk = stored.disk :=
    (Housed.call_confined stored _).memory rfl
  refine ⟨"r",rfl,List.cons_ne_nil _ _,?_⟩
  rw [hd]
  decide +kernel

end Sample

/-- The artifact stays as it is, whatever is asked of the services after the job was concluded. -/
theorem artifacts_frozen_delivered :
    build Sample.config .empty = (.ok Sample.empty,.empty) ∧
    ∀ future, (∀ d ∈ future, d.Quiet) →
      ((Sample.empty.after .everyone Sample.delivery).after .everyone future).Holds
        Queue.Sample.parent ["x"] [1] := by
  refine ⟨Sample.config_built,?_⟩
  intro future hq
  have h := artifacts_frozen Sample.config_built rfl rfl Sample.bare .everyone
    Sample.delivery_quiet Sample.delivery_after
  have hended := h.2.1 _ _ Sample.delivered_found (Or.inl rfl) future hq
  rw [Sample.delivery_after]
  exact (hended.1.files _ _).mpr Sample.delivered_holds

end Services

end BuildFarm
