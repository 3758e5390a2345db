import BuildFarm.Proofs.Http.Location
import BuildFarm.Proofs.Http.Refusals
import BuildFarm.Proofs.Queue.Tokens

namespace BuildFarm

/-- With no other writer at work a body comes to the same on every disk. -/
theorem Body.collect_undisturbed {b : Body} (hb : b.Undisturbed) (limit : Nat) (d e : Disk) :
    ∃ r, b.collect limit d = (r,d) ∧ b.collect limit e = (r,e) := by
  have from_undisturbed (chunks : List Chunk) (hc : ∀ c ∈ chunks, ∃ bs, c = .bytes bs)
      (taken : List Bytes) (size : Nat) : ∃ r,
      collectFrom limit b.failure d taken size chunks = (r,d) ∧
        collectFrom limit b.failure e taken size chunks = (r,e) := by
    induction chunks generalizing taken size with
    | nil =>
      unfold collectFrom
      cases b.failure <;> exact ⟨_,rfl,rfl⟩
    | cons c rest ih =>
      rw [List.forall_mem_cons] at hc
      obtain ⟨⟨bs,rfl⟩,hc⟩ := hc
      unfold collectFrom
      split
      · exact ⟨_,rfl,rfl⟩
      · exact ih hc _ _
  exact from_undisturbed b.chunks hb [] 0

namespace Services

/-- The same services but for the ids, with a folder of artifacts in which names stay. -/
structure Renamed (x : Exchange) (s u : Services) : Prop where
  queue : s.queue.Renamed x u.queue
  artifacts : u.artifacts = s.artifacts
  files : ∀ root, s.artifacts.root = some root → Artifacts.Keeps x.ids x.disk root

namespace Renamed

variable {x : Exchange} {s u : Services}

theorem withQueue (h : Renamed x s u) {q p : Queue} (hq : q.Renamed x p) :
    Renamed x { s with queue := q } { u with queue := p } :=
  { h with queue := hq }

theorem withDisk (h : Renamed x s u) {d e : Disk} (hd : d.Renamed x.disk e) :
    Renamed x (s.withDisk d) (u.withDisk e) where
  queue := { h.queue with store := h.queue.store.onDisk hd }
  artifacts := h.artifacts
  files := h.files

end Renamed

end Services

namespace Http.Server

open Reply Services

/-- Replies that belong together, with what became of the services. -/
structure Outcomes (x : Exchange) (r : Reply → Reply → Prop) (p q : Reply × Services) : Prop where
  reply : r p.1 q.1
  services : p.2.Renamed x q.2

variable {x : Exchange} {s u : Services} {body : Body}

theorem takeBody_undisturbed (hb : body.Undisturbed) (s u : Services) :
    (∃ bytes, takeBody s body = (.ok bytes,s) ∧ takeBody u body = (.ok bytes,u)) ∨
    ∃ reply, takeBody s body = (.error reply,s) ∧ takeBody u body = (.error reply,u) ∧
      reply.status ≠ 409 := by
  obtain ⟨r,hs,hu⟩ := Body.collect_undisturbed hb maxBodyBytes s.disk u.disk
  unfold takeBody
  rw [hs,hu]
  cases r with
  | ok bytes => exact Or.inl ⟨bytes,rfl,rfl⟩
  | error f =>
    refine Or.inr ⟨bodyFault f,rfl,rfl,?_⟩
    cases f <;> simp [bodyFault]

theorem decodeBody_error {shape : Json.Shape δ α} {bytes : Bytes}
    (h : decodeBody shape bytes = .error reply) : reply.status ≠ 409 := by
  unfold decodeBody at h
  split at h
  · cases h
    simp
  · split at h
    · cases h
    · cases h
      simp

theorem tokenOf_error {raw : List Char} (h : tokenOf raw = .error reply) : reply.status ≠ 409 := by
  unfold tokenOf at h
  split at h
  · cases h
    simp [unreadable]
  · rename_i text _
    cases hp : DispatchToken.parse text with
    | ok t =>
      rw [hp] at h
      cases h
    | error e =>
      rw [hp] at h
      cases h
      simp [invalidToken]

theorem requestJob_renamed (h : s.Renamed x u) (o : Occasion) (hb : body.Undisturbed) :
    Outcomes x (Same x.ids) (requestJob s o body) (requestJob u o body) := by
  unfold requestJob
  rcases takeBody_undisturbed hb s u with ⟨bytes,hs,hu⟩ | ⟨reply,hs,hu,hn⟩
  · rw [hs,hu]
    dsimp only
    cases hd : decodeBody JobWanted.shape bytes with
    | error reply => exact ⟨same_of_status (decodeBody_error hd),h⟩
    | ok wanted =>
      obtain ⟨hr,hq⟩ := h.queue.request o.reading o.tokens wanted.filter
      dsimp only
      generalize s.queue.request o.reading o.tokens wanted.filter = a at hr hq ⊢
      generalize u.queue.request o.reading o.tokens wanted.filter = b at hr hq ⊢
      obtain ⟨a,q⟩ := a
      obtain ⟨b,p⟩ := b
      cases hr with
      | error he => exact ⟨same_queueFault he,h.withQueue hq⟩
      | @ok c _ hc =>
        subst hc
        cases c with
        | none => exact ⟨same_of_status (by simp [Reply.empty]),h.withQueue hq⟩
        | some c => exact ⟨same_of_status (r := .json 201 (claimJson c)) (by simp),h.withQueue hq⟩
  · rw [hs,hu]
    exact ⟨same_of_status hn,h⟩

theorem showJob_renamed (h : s.Renamed x u) (token : List Char) :
    Outcomes x (Same x.ids) (showJob s token) (showJob u token) := by
  unfold showJob
  cases ht : tokenOf token with
  | error reply => exact ⟨same_of_status (tokenOf_error ht),h⟩
  | ok t =>
    obtain ⟨hr,hq⟩ := h.queue.isCanceled t
    dsimp only
    generalize s.queue.isCanceled t = a at hr hq ⊢
    generalize u.queue.isCanceled t = b at hr hq ⊢
    obtain ⟨a,q⟩ := a
    obtain ⟨b,p⟩ := b
    cases hr with
    | error he => exact ⟨same_queueFault he,h.withQueue hq⟩
    | ok hb =>
      subst hb
      exact ⟨same_of_status (by simp),h.withQueue hq⟩

theorem concludeJob_renamed (h : s.Renamed x u) (o : Occasion) (token : List Char)
    (hb : body.Undisturbed) :
    Outcomes x (Same x.ids) (concludeJob s o token body) (concludeJob u o token body) := by
  unfold concludeJob
  cases parameter? token with
  | none => exact ⟨same_of_status (by simp [unreadable]),h⟩
  | some _ =>
    dsimp only
    rcases takeBody_undisturbed hb s u with ⟨bytes,hs,hu⟩ | ⟨reply,hs,hu,hn⟩
    · rw [hs,hu]
      dsimp only
      cases ht : tokenOf token with
      | error reply => exact ⟨same_of_status (tokenOf_error ht),h⟩
      | ok t =>
        dsimp only
        cases hd : decodeBody Report.shape bytes with
        | error reply => exact ⟨same_of_status (decodeBody_error hd),h⟩
        | ok report =>
          obtain ⟨hr,hq⟩ := h.queue.conclude o.reading t report.status report.result
          dsimp only
          generalize s.queue.conclude o.reading t report.status report.result = a at hr hq ⊢
          generalize u.queue.conclude o.reading t report.status report.result = b at hr hq ⊢
          obtain ⟨a,q⟩ := a
          obtain ⟨b,p⟩ := b
          cases hr with
          | error he => exact ⟨same_queueFault he,h.withQueue hq⟩
          | ok _ => exact ⟨same_of_status (by simp [emptyObject]),h.withQueue hq⟩
    · rw [hs,hu]
      exact ⟨same_of_status hn,h⟩

theorem store_renamed (h : s.Renamed x u) (o : Occasion) (t : DispatchToken) (name : String)
    (hb : body.Undisturbed) :
    Outcomes x (Alike x.ids) (store s o t name body) (store u o t name body) := by
  unfold store
  cases ArtifactName.parse name with
  | error e => exact ⟨.same (same_of_status (by simp)),h⟩
  | ok name =>
    have hl := h.queue.liveClaim t
    dsimp only
    generalize s.queue.liveClaim t = a at hl ⊢
    generalize u.queue.liveClaim t = b at hl ⊢
    cases hl with
    | error he =>
      subst he
      exact ⟨.same (same_queueFault (.same _)),h⟩
    | @ok job _ hj =>
      subst hj
      obtain ⟨hp,hd⟩ := Artifacts.put_renamed s.artifacts h.files h.queue.store.disk o.upload job
        name hb
      dsimp only [Services.disk]
      rw [h.artifacts]
      generalize s.artifacts.put s.queue.store.disk o.upload job name body = a at hp hd ⊢
      generalize s.artifacts.put u.queue.store.disk o.upload (x.ids job) name body = b at hp hd ⊢
      obtain ⟨a,d⟩ := a
      obtain ⟨b,e⟩ := b
      cases hp with
      | ok _ => exact ⟨.same (same_of_status (by simp [emptyObject])),h.withDisk hd⟩
      | error he => exact ⟨alike_artifactFault he,h.withDisk hd⟩

theorem upload_renamed (h : s.Renamed x u) (o : Occasion) (token name : List Char)
    (hb : body.Undisturbed) :
    Outcomes x (Alike x.ids) (upload s o token name body) (upload u o token name body) := by
  unfold upload
  cases parameter? token with
  | none => exact ⟨.same (same_of_status (by simp [unreadable])),h⟩
  | some _ =>
    cases parameter? name with
    | none => exact ⟨.same (same_of_status (by simp [unreadable])),h⟩
    | some name =>
      dsimp only
      cases ht : tokenOf token with
      | error reply => exact ⟨.same (same_of_status (tokenOf_error ht)),h⟩
      | ok t => exact store_renamed h o t name hb

theorem store_kept {t : DispatchToken} {job : JobId} {n : ArtifactName} {o : Occasion} {d : Disk}
    (hl : s.queue.liveClaim t = .ok job)
    (hp : s.artifacts.put s.disk o.upload job n body = (.ok len,d)) :
    store s o t n.text body = (emptyObject,s.withDisk d) := by
  rw [store_live hl,hp]

theorem store_refused {t : DispatchToken} {job : JobId} {n : ArtifactName} {o : Occasion} {d : Disk}
    (hl : s.queue.liveClaim t = .ok job)
    (hp : s.artifacts.put s.disk o.upload job n body = (.error e,d)) :
    store s o t n.text body = (artifactFault e,s.withDisk d) := by
  rw [store_live hl,hp]

theorem upload_method {e : Endpoint} (h : e.action? method = some (.upload token name)) :
    method ≠ "HEAD" := by
  rintro rfl
  cases e <;> simp [Endpoint.action?] at h

/-- What is sent in reply to a request. -/
theorem handle_renamed (h : s.Renamed x u) (a : Access) (o : Occasion) {r : Request}
    (hb : r.body.Undisturbed) :
    Outcomes x (fun p q => q = p ↔ ¬Discloses x.ids p) (handle a s o r) (handle a u o r) := by
  have refused {p : Reply} (hp : p.status ≠ 409) : p = p ↔ ¬Discloses x.ids p :=
    ⟨fun _ => not_discloses hp,fun _ => rfl⟩
  have answered {p q : Reply × Services} (hs : Outcomes x (Same x.ids) p q) :
      Outcomes x (fun p q => q = p ↔ ¬Discloses x.ids p)
        (if r.method = "HEAD" then p.1.sized.headOnly else p.1.sized,p.2)
        (if r.method = "HEAD" then q.1.sized.headOnly else q.1.sized,q.2) := by
    refine ⟨?_,hs.services⟩
    dsimp only
    split
    · exact ⟨fun _ => headOnly_clear,fun _ => by rw [hs.reply.eq]⟩
    · exact (Alike.same hs.reply).sent
  unfold handle
  cases Endpoint.ofPath? r.path with
  | none => exact ⟨refused (by simp [notFound]),h⟩
  | some e =>
    dsimp only
    cases ha : e.action? r.method with
    | none =>
      refine ⟨refused ?_,h⟩
      dsimp only
      split <;> simp [notFound,Reply.empty]
    | some action =>
      dsimp only
      by_cases had : a.admits o.reading.now r = true
      · rw [if_pos had,if_pos had]
        cases action with
        | showStatus => exact answered ⟨same_of_status (by simp [perform,showStatus]),h⟩
        | requestJob => exact answered (requestJob_renamed h o hb)
        | showJob token => exact answered (showJob_renamed h token)
        | concludeJob token => exact answered (concludeJob_renamed h o token hb)
        | upload token name =>
          obtain ⟨hr,hu⟩ := upload_renamed h o token name hb
          refine ⟨?_,hu⟩
          dsimp only [perform]
          rw [if_neg (upload_method ha),if_neg (upload_method ha)]
          exact hr.sent
      · rw [if_neg had,if_neg had]
        exact answered ⟨same_of_status (by simp [notFound]),h⟩

end Http.Server

/-- What is asked of the services: jobs are put in and canceled by their ids, and whoever works on
them sends requests. -/
inductive Call
  | enqueue (id : JobId) (now : Instant) (type : JobType) (args : Json) (dependencies : List JobId)
  | cancel (id : JobId)
  | request (o : Http.Occasion) (r : Http.Request)

namespace Call

/-- The same call for the job of another id. -/
def renamed (ρ : JobId → JobId) : Call → Call
  | .enqueue id now type args dependencies => .enqueue (ρ id) now type args dependencies
  | .cancel id => .cancel (ρ id)
  | .request o r => .request o r

def enqueued? : Call → Option JobId
  | .enqueue id _ _ _ _ => some id
  | _ => none

end Call

namespace Services

open Http

def take (a : Access) (s : Services) : Call → Option Reply × Services
  | .enqueue id now type args dependencies =>
    (none,{ s with queue := (s.queue.enqueue id now type args dependencies).2 })
  | .cancel id => (none,{ s with queue := (s.queue.cancel id).2 })
  | .request o r =>
    let (reply,s) := Server.handle a s o r
    (some reply,s)

/-- All replies to the requests of a run. -/
def replies (a : Access) (s : Services) : List Call → List Reply
  | [] => []
  | c :: run => (take a s c).1.toList ++ replies a (take a s c).2 run

/-- What can be asked while ids are exchanged: no job depends on one whose id changes. -/
def Admissible (x : Exchange) : Call → Prop
  | .enqueue id _ _ _ dependencies => x.known id ∧ ∀ d ∈ dependencies, x.ids d = d
  | .cancel _ => True
  | .request _ r => r.body.Undisturbed

section Runs

variable {x : Exchange} {s u : Services}

theorem take_renamed (h : s.Renamed x u) (a : Access) {c : Call} (hc : Admissible x c) :
    List.Forall₂ (fun p q => q = p ↔ ¬Discloses x.ids p) (take a s c).1.toList
        (take a u (c.renamed x.ids)).1.toList ∧
      (take a s c).2.Renamed x (take a u (c.renamed x.ids)).2 := by
  cases c with
  | enqueue id now type args ds =>
    exact ⟨.nil,h.withQueue (h.queue.enqueue hc.1 hc.2 now type args)⟩
  | cancel id => exact ⟨.nil,h.withQueue (h.queue.cancel id)⟩
  | request o r =>
    obtain ⟨hr,hs⟩ := Server.handle_renamed h a o hc
    exact ⟨.cons hr .nil,hs⟩

theorem replies_renamed (h : s.Renamed x u) (a : Access) {run : List Call}
    (hr : ∀ c ∈ run, Admissible x c) :
    List.Forall₂ (fun p q => q = p ↔ ¬Discloses x.ids p) (s.replies a run)
      (u.replies a (run.map (Call.renamed x.ids))) := by
  induction run generalizing s u with
  | nil => exact .nil
  | cons c run ih =>
    rw [List.forall_mem_cons] at hr
    obtain ⟨hc,h⟩ := take_renamed h a hr.1
    exact List.rel_append hc (ih h hr.2)

end Runs

/-- The name is that of nothing kept for a job whose id changes. -/
def Stays (ρ : JobId → JobId) (name : String) : Prop :=
  ∀ k i, name = Keepsake.name k i → ρ i = i

/-- Nothing that is there speaks of a job whose id changes, and what is kept for jobs is not kept
in the folder of one. -/
structure Unaware (ρ : JobId → JobId) (s : Services) : Prop where
  keyed : s.queue.store.Keyed
  records : ∀ id j, s.queue.store.find? id = some j → ρ id = id ∧ ∀ d ∈ j.dependencies, ρ d = d
  pending : ∀ id ∈ s.queue.store.index.pending, ρ id = id
  tokens : ∀ job, s.queue.tokens.Binds job → ρ job = job
  disk : s.disk.Ordered
  nodes : ∀ e ∈ s.disk.nodes, ∀ name ∈ e.1, Stays ρ name
  files : ∀ root, s.artifacts.root = some root → ∀ name ∈ Path.names root, Stays ρ name
  home : ∀ root, s.queue.store.root = some root → ∀ name ∈ Path.names root, Stays ρ name
  apart : ∀ files home, s.artifacts.root = some files → s.queue.store.root = some home →
    ∀ job : JobId, Disk.destination home ≠ Disk.destination files ++ [job.text]

/-- The services have the job, or get it in the run. -/
def Has (s : Services) (run : List Call) (id : JobId) : Prop :=
  (s.queue.store.find? id).isSome ∨ id ∈ s.queue.store.index.pending ∨
    some id ∈ run.map Call.enqueued?

/-- Ids that can be exchanged in a run: the jobs keep their order, and none of those whose id
changes is one on which another depends. -/
structure Exchangeable (ρ : JobId → JobId) (s : Services) (run : List Call) : Prop where
  unaware : Unaware ρ s
  order : ∀ i j, s.Has run i → s.Has run j → (ρ i < ρ j ↔ i < j)
  independent : ∀ id now type args ds, .enqueue id now type args ds ∈ run → ∀ d ∈ ds, ρ d = d
  undisturbed : ∀ o r, .request o r ∈ run → r.body.Undisturbed

namespace Exchangeable

variable {ρ : Equiv.Perm JobId} {s : Services} {run : List Call}

noncomputable def exchange (h : Exchangeable ρ s run) : Exchange where
  ids := ρ
  disk := renamingIn ρ
    ((s.artifacts.root.toList ++ s.queue.store.root.toList).map Disk.destination)
  known := s.Has run
  ordered := h.order

theorem kept {name : String} (hn : Stays ρ name) : exchangeNames ρ name = name :=
  exchangeNames_kept ρ hn

theorem index (h : Exchangeable ρ s run) :
    s.queue.store.index.Renamed h.exchange s.queue.store.index where
  records id := by
    change s.queue.store.find? (ρ id) = (s.queue.store.find? id).map (Job.renamed ρ)
    cases hj : s.queue.store.find? id with
    | none =>
      by_contra hne
      obtain ⟨j,hk⟩ := Option.ne_none_iff_exists'.mp hne
      have hid := ρ.injective (h.unaware.records (ρ id) j hk).1
      rw [hid,hj] at hk
      cases hk
    | some j =>
      have hid := (h.unaware.records id j hj).1
      rw [hid,hj]
      have hsame : j.renamed ρ = j := by
        rw [Job.renamed,h.unaware.keyed id j hj,hid,← h.unaware.keyed id j hj]
      rw [Option.map_some,hsame]
  pending := ((List.map_congr_left h.unaware.pending).trans (List.map_id' _)).symm
  known id j hj := Or.inl (Option.isSome_iff_exists.mpr ⟨j,hj⟩)
  waiting id hm := Or.inr (Or.inl hm)
  keyed := h.unaware.keyed
  steady id j hj := (h.unaware.records id j hj).2

theorem tokens (h : Exchangeable ρ s run) : s.queue.tokens.Renamed ρ s.queue.tokens := by
  have same {o : Option JobId} (ho : ∀ job, o = some job → ρ job = job) : o = o.map ρ := by
    cases o with
    | none => rfl
    | some job => rw [Option.map_some,ho job rfl]
  exact ⟨rfl,rfl,rfl,fun t => same fun job hj => h.unaware.tokens job ⟨t,Or.inl hj⟩,
    fun t => same fun job hj => h.unaware.tokens job ⟨t,Or.inr hj⟩⟩

theorem files (h : Exchangeable ρ s run) {root : Path} (hr : s.artifacts.root = some root) :
    Artifacts.Keeps h.exchange.ids h.exchange.disk root where
  exchange := rfl
  place := List.mem_map.mpr ⟨root,by simp [hr],rfl⟩
  kept name hn := kept (h.unaware.files root hr name hn)
  inner job hm := by
    obtain ⟨place,hp,he⟩ := List.mem_map.mp hm
    rcases List.mem_append.mp hp with hp | hp
    · rw [hr] at hp
      obtain rfl := List.mem_singleton.mp hp
      exact absurd he (by simp)
    · exact h.unaware.apart root place hr (Option.mem_toList.mp hp) job he

theorem home (h : Exchangeable ρ s run) {root : Path} (hr : s.queue.store.root = some root) :
    Houses h.exchange.ids h.exchange.disk root where
  exchange := rfl
  place := List.mem_map.mpr ⟨root,by simp [hr],rfl⟩
  kept name hn := kept (h.unaware.home root hr name hn)

theorem renamed (h : Exchangeable ρ s run) : s.Renamed h.exchange s where
  queue :=
    { store :=
        { root := rfl
          faults := rfl
          failures := rfl
          disk := Disk.renamed_self h.unaware.disk
            (fun e he name hn => kept (h.unaware.nodes e he name hn))
          index := h.index
          home := fun _ hr => h.home hr }
      tokens := h.tokens
      bound := fun job hb => Or.inl (h.unaware.tokens job hb) }
  artifacts := rfl
  files := fun _ hr => h.files hr

theorem admissible (h : Exchangeable ρ s run) : ∀ c ∈ run, Admissible h.exchange c := by
  intro c hc
  cases c with
  | enqueue id now type args ds =>
    exact ⟨Or.inr (Or.inr (List.mem_map.mpr ⟨_,hc,rfl⟩)),h.independent id now type args ds hc⟩
  | cancel id => trivial
  | request o r => exact h.undisturbed o r hc

end Exchangeable

theorem eq_iff_of_forall₂ {p : α → Prop} {xs ys : List α}
    (h : List.Forall₂ (fun x y => y = x ↔ ¬p x) xs ys) : ys = xs ↔ ∀ x ∈ xs, ¬p x := by
  induction h with
  | nil => simp
  | cons hx _ ih => rw [List.cons.injEq,hx,ih,List.forall_mem_cons]

/-- Two runs that differ in the ids of jobs on which no other depends get the same replies exactly if
no upload for such a job is refused because its name is taken. -/
theorem replies_same_iff {ρ : Equiv.Perm JobId} {s : Services} {run : List Call}
    (h : Exchangeable ρ s run) (a : Access) :
    s.replies a (run.map (Call.renamed ρ)) = s.replies a run ↔
      ∀ r ∈ s.replies a run, ¬Discloses ρ r :=
  eq_iff_of_forall₂ (replies_renamed h.renamed a h.admissible)

/-- Which claims are live does not depend on the disk. -/
theorem liveClaim_withDisk (s : Services) (d : Disk) (token : DispatchToken) :
    (s.withDisk d).queue.liveClaim token = s.queue.liveClaim token := rfl

namespace Sample

open Queue.Sample

def empty : Services := .ofStore (.inMemory .empty) ⟨some "r"⟩

/-- The job gets the id that the next one might have had. -/
def exchange : Equiv.Perm JobId := Equiv.swap parent child

def occasion : Occasion := ⟨⟨.epoch,0⟩,[ticket 1],.ofNat 3⟩

def wanted : Request :=
  ⟨"POST","/api/worker/v1/jobs",[],
    .ofText "\x7b\"types\":[\"build\"],\"arch\":\"x86\"\x7d"⟩

def artifact : ArtifactName := ⟨"x",by decide⟩

def parcel : Request := ⟨"PUT",artifactLocation (ticket 1) ++ "x",[],.ofBytes [1]⟩

/-- A worker claims the only job and uploads an artifact. -/
def uploaded : List Call :=
  [.enqueue parent .epoch ⟨"build","x86"⟩ .null [],.request occasion wanted,
    .request occasion parcel]

/-- The same artifact is uploaded twice. -/
def again : List Call := uploaded ++ [.request occasion parcel]

def claimed : Services :=
  ⟨holding [(parent,(job parent []).taken .epoch)] [] bound,⟨some "r"⟩⟩

def first : Except ArtifactError Nat × Disk :=
  claimed.artifacts.put claimed.disk occasion.upload parent artifact parcel.body

def waiting : Services :=
  ⟨holding [(parent,job parent [])] [parent] .fresh,⟨some "r"⟩⟩

theorem request_waiting : waiting.queue.request occasion.reading occasion.tokens anyWork =
    (.ok (some ⟨ticket 1,parent,⟨"build","x86"⟩,.null,none⟩),claimed.queue) := by
  have hn : waiting.queue.store.next anyWork .epoch =
      (.ok (some ((job parent []).taken .epoch)),claimed.queue.store) := rfl
  have hi : waiting.queue.tokens.issue? 0 [ticket 1] parent = some (ticket 1,bound) :=
    Registry.issue?_fresh 0 (ticket 1) parent
  exact Queue.request_issued (r := occasion.reading) hn rfl hi

theorem wanted_read : decodeBody JobWanted.shape wanted.body.content = .ok ⟨["build"],"x86"⟩ := by
  decide +kernel

def claim : Claim := ⟨ticket 1,parent,⟨"build","x86"⟩,.null,none⟩

theorem wanted_path : Endpoint.ofPath? wanted.path = some .jobs := by
  decide

theorem wanted_claimed {s : Services} {o : Occasion} {c : Claim} {q : Queue}
    (h : s.queue.request o.reading o.tokens anyWork = (.ok (some c),q)) :
    Server.handle .everyone s o wanted =
      ((Reply.json 201 (claimJson c)).sized,{ s with queue := q }) := by
  have ha : Endpoint.jobs.action? wanted.method = some .requestJob := rfl
  have ht : Server.takeBody s wanted.body = (.ok wanted.body.content,s) := rfl
  have hr : Server.requestJob s o wanted.body = (.json 201 (claimJson c),{ s with queue := q }) := by
    unfold Server.requestJob
    rw [ht]
    dsimp only
    rw [wanted_read]
    dsimp only
    rw [show JobWanted.filter ⟨["build"],"x86"⟩ = anyWork from rfl,h]
  rw [Server.handle_everyone wanted_path ha (by decide),Server.perform,hr]

theorem wanted_replied : Server.handle .everyone waiting occasion wanted =
    ((Reply.json 201 (claimJson claim)).sized,claimed) :=
  wanted_claimed request_waiting

theorem parcel_path :
    Endpoint.ofPath? parcel.path = some (.artifact (ticket 1).uuid.render "x".toList) := by
  decide +kernel

theorem put_first : first.1 = .ok 1 := by
  decide +kernel

def stored : Services := claimed.withDisk first.2

def second : Except ArtifactError Nat × Disk :=
  stored.artifacts.put stored.disk occasion.upload parent artifact parcel.body

theorem put_second : second.1 = .error (.alreadyExists parent artifact) := by
  decide +kernel

theorem live_claimed : claimed.queue.liveClaim (ticket 1) = .ok parent := by
  simp [Queue.liveClaim,Registry.resolveLive,claimed,holding,bound,Except.mapError]

theorem live_stored : stored.queue.liveClaim (ticket 1) = .ok parent := by
  rw [stored,liveClaim_withDisk]
  exact live_claimed

theorem parcel_replied (s : Services) : Server.handle .everyone s occasion parcel =
    ((Server.store s occasion (ticket 1) artifact.text parcel.body).1.sized,
      (Server.store s occasion (ticket 1) artifact.text parcel.body).2) := by
  have hn : parameter? "x".toList = some artifact.text := by
    decide +kernel
  rw [Server.handle_upload rfl parcel_path,Server.upload_render,hn]

theorem take_enqueue : take .everyone empty (.enqueue parent .epoch ⟨"build","x86"⟩ .null []) =
    (none,waiting) := rfl

theorem take_wanted : take .everyone waiting (.request occasion wanted) =
    (some (Reply.json 201 (claimJson claim)).sized,claimed) := by
  rw [take,wanted_replied]

theorem take_kept {s : Services} {p : Except ArtifactError Nat × Disk}
    (hl : s.queue.liveClaim (ticket 1) = .ok parent)
    (hk : p.1 = .ok len)
    (hp : s.artifacts.put s.disk occasion.upload parent artifact parcel.body = p) :
    take .everyone s (.request occasion parcel) =
      (some Server.emptyObject.sized,s.withDisk p.2) := by
  rw [take,parcel_replied,Server.store_kept hl (hp.trans (Prod.ext hk rfl))]

theorem take_refused {s : Services} {p : Except ArtifactError Nat × Disk}
    (hl : s.queue.liveClaim (ticket 1) = .ok parent)
    (hk : p.1 = .error e)
    (hp : s.artifacts.put s.disk occasion.upload parent artifact parcel.body = p) :
    take .everyone s (.request occasion parcel) =
      (some (artifactFault e).sized,s.withDisk p.2) := by
  rw [take,parcel_replied,Server.store_refused hl (hp.trans (Prod.ext hk rfl))]

theorem replies_uploaded (run : List Call) : empty.replies .everyone (uploaded ++ run) =
    (Reply.json 201 (claimJson claim)).sized :: Server.emptyObject.sized ::
      stored.replies .everyone run := by
  simp only [uploaded,List.cons_append,List.nil_append,replies,take_enqueue,take_wanted,
    take_kept live_claimed put_first rfl]
  rfl

theorem unaware : Unaware exchange empty where
  keyed := nofun
  records := nofun
  pending := nofun
  tokens := by
    rintro job ⟨t,ht⟩
    simp [empty,ofStore,Queue.ofStore,Registry.fresh,Registry.empty] at ht
  disk := .nil
  nodes := nofun
  files := by
    rintro _ ⟨⟩ name hm k i rfl
    have hname : Path.names "r" = ["r"] := by decide
    rw [hname,List.mem_singleton] at hm
    have hsize := congrArg String.utf8ByteSize hm
    rw [Keepsake.name_size] at hsize
    exact absurd hsize (by cases k <;> decide)
  home := nofun
  apart := nofun

/-- The job is the only one, so no order is changed. -/
theorem has_uploaded {run : List Call} (hr : ∀ c ∈ run, c = .request occasion parcel) {id : JobId}
    (h : empty.Has (uploaded ++ run) id) : id = parent := by
  rcases h with h | h | h
  · cases h
  · cases h
  · obtain ⟨c,hc,he⟩ := List.mem_map.mp h
    rcases List.mem_append.mp hc with hc | hc
    · simp only [uploaded,List.mem_cons,List.not_mem_nil,or_false] at hc
      rcases hc with rfl | rfl | rfl
      · exact (Option.some.inj he).symm
      · cases he
      · cases he
    · rw [hr c hc] at he
      cases he

theorem exchangeable (run : List Call) (hr : ∀ c ∈ run, c = .request occasion parcel) :
    Exchangeable exchange empty (uploaded ++ run) where
  unaware := unaware
  order i j hi hj := by
    rw [has_uploaded hr hi,has_uploaded hr hj]
    exact iff_of_false (irrefl _) (irrefl _)
  independent id now type args ds hm := by
    rcases List.mem_append.mp hm with hm | hm
    · simp only [uploaded,List.mem_cons,List.not_mem_nil,or_false] at hm
      rcases hm with hm | hm | hm
      · cases hm
        exact nofun
      · cases hm
      · cases hm
    · cases hr _ hm
  undisturbed o r hm := by
    rcases List.mem_append.mp hm with hm | hm
    · simp only [uploaded,List.mem_cons,List.not_mem_nil,or_false] at hm
      rcases hm with hm | hm | hm
      · cases hm
      · cases hm
        exact Body.undisturbed_ofBytes _
      · cases hm
        exact Body.undisturbed_ofBytes _
    · cases hr _ hm
      exact Body.undisturbed_ofBytes _

end Sample

/-- Whoever claims the job and uploads an artifact cannot tell its id. -/
theorem replies_same_uploaded : Exchangeable Sample.exchange Sample.empty Sample.uploaded ∧
    Sample.empty.replies .everyone (Sample.uploaded.map (Call.renamed Sample.exchange)) =
      Sample.empty.replies .everyone Sample.uploaded := by
  have hx := Sample.exchangeable [] nofun
  have hr := Sample.replies_uploaded []
  rw [List.append_nil] at hx hr
  refine ⟨hx,(replies_same_iff hx .everyone).mpr ?_⟩
  rw [hr]
  simp only [replies,List.forall_mem_cons,List.not_mem_nil,false_implies,implies_true,and_true]
  exact ⟨not_discloses (by simp),not_discloses (by simp [Server.emptyObject])⟩

/-- Who uploads it again is told. -/
theorem second_upload_discloses :
    Exchangeable Sample.exchange Sample.empty Sample.again ∧
    Sample.empty.replies .everyone (Sample.again.map (Call.renamed Sample.exchange)) ≠
      Sample.empty.replies .everyone Sample.again := by
  have hx : Exchangeable Sample.exchange Sample.empty Sample.again :=
    Sample.exchangeable _ (fun c hc => List.mem_singleton.mp hc)
  refine ⟨hx,?_⟩
  intro he
  have hclear : ∀ r ∈ Sample.empty.replies .everyone Sample.again, ¬Discloses Sample.exchange r :=
    (eq_iff_of_forall₂ (replies_renamed hx.renamed .everyone hx.admissible)).mp he
  unfold Sample.again at hclear
  rw [Sample.replies_uploaded] at hclear
  refine hclear (refusal Queue.Sample.parent Sample.artifact).sized ?_
    ⟨Queue.Sample.parent,Sample.artifact,?_,rfl⟩
  · rw [replies,Sample.take_refused Sample.live_stored Sample.put_second rfl]
    exact List.mem_cons_of_mem _ (List.mem_cons_of_mem _ List.mem_cons_self)
  · change Equiv.swap _ _ _ ≠ _
    rw [Equiv.swap_apply_left]
    decide

end Services

end BuildFarm
