import BuildFarm.Proofs.Artifacts.Failures
import BuildFarm.Proofs.Disk.Destination
import BuildFarm.Proofs.Http.Reached
import BuildFarm.Proofs.Http.Secrecy
import BuildFarm.Proofs.Queue.Failures

namespace BuildFarm

open Disk Http

namespace Services

/-- A file to which a record is written before it takes the place of the record's file. -/
def Temporary (s : Services) (names : List String) : Prop :=
  ∃ home id, s.queue.store.root = some home ∧ names = destination (Store.tempPath home id)

/-- All that counts is as it was: the records and which of them can be claimed, the tokens and what
they stand for, and the files, those of the artifacts among them. -/
structure Unchanged (s t : Services) : Prop where
  index : t.queue.store.index = s.queue.store.index
  claimable : ∀ f, t.queue.store.candidate? f = s.queue.store.candidate? f
  tokens : t.queue.tokens = s.queue.tokens
  files : ∀ names bs, ¬s.Temporary names →
    (t.disk.node? names = some (.file bs) ↔ s.disk.node? names = some (.file bs))
  readable : ∀ p bs, ¬s.Temporary (destination p) → s.disk.contents p = .ok bs →
    t.disk.contents p = .ok bs

/-- What is drawn for a request was not drawn before: some token is neither live nor retired, and
nothing has the name of the upload in the folder of any job. -/
structure Draws (s : Services) (o : Occasion) : Prop where
  token : ∃ t ∈ o.tokens, s.queue.tokens.isTaken t = false
  upload : ∀ root job, s.artifacts.root = some root →
    (Artifacts.prepared root s.disk job).hasAt (Artifacts.uploadPath root job o.upload) ≠ .ok true

variable {s : Services}

theorem candidate?_congr {s t : Store} (h : t.index = s.index) (f : ClaimFilter) :
    t.candidate? f = s.candidate? f := by
  obtain ⟨_,_,_,_,_⟩ := s
  obtain ⟨_,_,_,_,_⟩ := t
  dsimp only at h
  subst h
  rfl

theorem Unchanged.refl (s : Services) : Unchanged s s :=
  ⟨rfl,fun _ => rfl,rfl,fun _ _ _ => Iff.rfl,fun _ _ _ h => h⟩

/-- Folders that are new are no artifacts. -/
theorem unchanged_only {d : Disk} (h : OnlyFolders s.disk d) : Unchanged s (s.withDisk d) where
  index := rfl
  claimable _ := rfl
  tokens := rfl
  files := by
    intro names bs _
    change d.node? names = some (.file bs) ↔ _
    rcases h names with he | ⟨hn,hf⟩
    · rw [he]
    · simp [hn,hf]
  readable := fun _ _ _ hc => contents_grows h.grows hc

theorem unchanged_fails {q : Queue} (h : s.queue.Fails q) : Unchanged s { s with queue := q } where
  index := h.store.index
  claimable := candidate?_congr h.store.index
  tokens := h.tokens
  files := by
    intro names bs hn
    change q.store.disk.node? names = some (.file bs) ↔ s.queue.store.disk.node? names = _
    rcases h.store.disk with he | ⟨home,id,content,hr,hs⟩
    · rw [he]
    · obtain ⟨hne,_,he⟩ := save_destination hs
      rw [he,node?_put _ _ hne,if_neg]
      rintro rfl
      exact hn ⟨home,id,hr,rfl⟩
  readable := by
    intro p bs hp hc
    change q.store.disk.contents p = .ok bs
    rcases h.store.disk with he | ⟨home,id,content,hr,hs⟩
    · rw [he]
      exact hc
    · obtain ⟨hne,hf,he⟩ := save_destination hs
      rw [he]
      refine contents_kept (foldersStay_put hne hf _) ?_ hc
      rw [node?_put _ _ hne,if_neg]
      rintro hd
      exact hp ⟨home,id,hr,hd.symm⟩

end Services

namespace Http.Server

open Services

variable {s : Services} {o : Occasion} {body : Body}

theorem showJob_same (hf : s.queue.store.faults = []) (token : List Char) :
    (showJob s token).2 = s := by
  unfold showJob
  cases tokenOf token with
  | error reply => rfl
  | ok t =>
    have hq := Queue.isCanceled_same hf t
    dsimp only
    generalize s.queue.isCanceled t = out at hq ⊢
    obtain ⟨x,q⟩ := out
    obtain rfl : q = s.queue := hq
    cases x <;> rfl

theorem requestJob_fails (h : s.Orderly) (hb : body.Undisturbed)
    (hfree : ∃ t ∈ o.tokens, s.queue.tokens.isTaken t = false)
    (hr : (requestJob s o body).1.isSuccess = false) : Unchanged s (requestJob s o body).2 := by
  unfold requestJob at hr ⊢
  rcases takeBody_undisturbed hb s s with ⟨bytes,hs,_⟩ | ⟨reply,hs,_⟩
  · rw [hs] at hr ⊢
    dsimp only at hr ⊢
    cases hd : decodeBody JobWanted.shape bytes with
    | error reply => exact .refl s
    | ok wanted =>
      rw [hd] at hr
      dsimp only at hr ⊢
      cases hq : s.queue.request o.reading o.tokens wanted.filter with
      | mk x q =>
        rw [hq] at hr
        cases x with
        | error e => exact unchanged_fails (Queue.request_fails h.regular h.faultless hfree hq)
        | ok c => cases c <;> exact absurd hr (by simp [Reply.isSuccess,Reply.json,Reply.empty])
  · rw [hs]
    exact .refl s

theorem concludeJob_fails (h : s.Orderly) (hb : body.Undisturbed) (token : List Char)
    (hr : (concludeJob s o token body).1.isSuccess = false) :
    Unchanged s (concludeJob s o token body).2 := by
  unfold concludeJob at hr ⊢
  cases hp : parameter? token with
  | none => exact .refl s
  | some text =>
    rw [hp] at hr
    dsimp only at hr ⊢
    rcases takeBody_undisturbed hb s s with ⟨bytes,hs,_⟩ | ⟨reply,hs,_⟩
    · rw [hs] at hr ⊢
      dsimp only at hr ⊢
      cases ht : tokenOf token with
      | error reply => exact .refl s
      | ok t =>
        rw [ht] at hr
        dsimp only at hr ⊢
        cases hd : decodeBody Report.shape bytes with
        | error reply => exact .refl s
        | ok report =>
          rw [hd] at hr
          dsimp only at hr ⊢
          cases hq : s.queue.conclude o.reading t report.status report.result with
          | mk x q =>
            rw [hq] at hr
            cases x with
            | error e => exact unchanged_fails (Queue.conclude_fails h.regular.outages h.running hq)
            | ok _ => exact absurd hr (by simp [Reply.isSuccess,emptyObject,Reply.json])
    · rw [hs]
      exact .refl s

theorem store_fails (hb : body.Undisturbed) (hfree : ∀ root job, s.artifacts.root = some root →
      (Artifacts.prepared root s.disk job).hasAt (Artifacts.uploadPath root job o.upload) ≠ .ok true)
    (t : DispatchToken) (name : String) (hr : (store s o t name body).1.isSuccess = false) :
    Unchanged s (store s o t name body).2 := by
  unfold store at hr ⊢
  cases hn : ArtifactName.parse name with
  | error e => exact .refl s
  | ok name =>
    rw [hn] at hr
    dsimp only at hr ⊢
    cases hl : s.queue.liveClaim t with
    | error e => exact .refl s
    | ok job =>
      rw [hl] at hr
      dsimp only at hr ⊢
      cases hp : s.artifacts.put s.disk o.upload job name body with
      | mk x d =>
        rw [hp] at hr
        cases x with
        | error e =>
          have honly := Artifacts.put_failed hb (fun root h => hfree root job h)
            (congrArg Prod.fst hp)
          rw [hp] at honly
          exact unchanged_only honly
        | ok len => exact absurd hr (by simp [Reply.isSuccess,emptyObject,Reply.json])

theorem upload_fails (hb : body.Undisturbed) (hfree : ∀ root job, s.artifacts.root = some root →
      (Artifacts.prepared root s.disk job).hasAt (Artifacts.uploadPath root job o.upload) ≠ .ok true)
    (token name : List Char) (hr : (upload s o token name body).1.isSuccess = false) :
    Unchanged s (upload s o token name body).2 := by
  unfold upload at hr ⊢
  cases hp : parameter? token with
  | none => exact .refl s
  | some _ =>
    cases hn : parameter? name with
    | none => exact .refl s
    | some name =>
      rw [hp,hn] at hr
      dsimp only at hr ⊢
      cases ht : tokenOf token with
      | error reply => exact .refl s
      | ok t =>
        rw [ht] at hr
        exact store_fails hb hfree t name hr

theorem perform_fails (h : s.Orderly) (hd : s.Draws o) (hb : body.Undisturbed) (action : Action)
    (hr : (perform s o body action).1.isSuccess = false) :
    Unchanged s (perform s o body action).2 := by
  cases action with
  | showStatus => exact .refl s
  | requestJob => exact requestJob_fails h hb hd.token hr
  | showJob token =>
    rw [perform,showJob_same h.faultless]
    exact .refl s
  | concludeJob token => exact concludeJob_fails h hb token hr
  | upload token name => exact upload_fails hb hd.upload token name hr

/-- The methods that only ask do so everywhere. -/
theorem asks {e : Endpoint} (hm : method = "GET" ∨ method = "HEAD")
    (ha : e.action? method = some action) :
    action = .showStatus ∨ ∃ token, action = .showJob token := by
  rcases hm with rfl | rfl
  · cases e <;> simp [Endpoint.action?] at ha <;> simp [← ha]
  · cases e <;> simp [Endpoint.action?] at ha <;> simp [← ha]

/-- However the services were reached, a request that fails leaves all that counts as it was, if no
one else writes files meanwhile and what is drawn for it is new; and a request that only asks
leaves everything as it was. -/
theorem failure_changes_nothing {disk : Disk} {root : Option Path} {artifacts : Artifacts}
    (h : (start disk root artifacts).Reached s) (a : Access) (o : Occasion) (r : Request) :
    (r.body.Undisturbed → s.Draws o → (handle a s o r).1.isSuccess = false →
      Unchanged s (handle a s o r).2) ∧
    (r.method = "GET" ∨ r.method = "HEAD" → (handle a s o r).2 = s) := by
  have hs := h.orderly (orderly_start disk root artifacts)
  refine ⟨fun hb hd hr => ?_,fun hm => ?_⟩
  · unfold handle at hr ⊢
    cases hp : Endpoint.ofPath? r.path with
    | none => exact .refl s
    | some e =>
      rw [hp] at hr
      dsimp only at hr ⊢
      cases ha : e.action? r.method with
      | none => exact .refl s
      | some action =>
        rw [ha] at hr
        dsimp only at hr ⊢
        by_cases had : a.admits o.reading.now r = true
        · rw [if_pos had] at hr ⊢
          refine perform_fails hs hd hb action ?_
          split at hr <;> exact hr
        · rw [if_neg had]
          exact .refl s
  · unfold handle
    cases Endpoint.ofPath? r.path with
    | none => rfl
    | some e =>
      dsimp only
      cases ha : e.action? r.method with
      | none => rfl
      | some action =>
        dsimp only
        split
        · rcases asks hm ha with rfl | ⟨token,rfl⟩
          · rfl
          · exact showJob_same hs.faultless token
        · rfl

namespace Sample

def waiting : Services :=
  (start .empty none ⟨none⟩).call
    (.enqueue Queue.Sample.parent .epoch ⟨"build","x86"⟩ .null [])

/-- The connection is lost while a worker asks for a job. -/
def broken : Request :=
  ⟨"POST","/api/worker/v1/jobs",[],⟨[.bytes [123]],some "connection reset"⟩⟩

def occasion : Occasion := ⟨⟨.epoch,1⟩,[Queue.Sample.ticket 1],.ofNat 2⟩

theorem draws_occasion : waiting.Draws occasion where
  token := by
    have hfresh : waiting.queue.tokens = .fresh := rfl
    refine ⟨Queue.Sample.ticket 1,List.mem_cons_self,?_⟩
    simp [hfresh,Registry.isTaken,Registry.fresh,Registry.empty]
  upload := by
    intro root job h
    cases h

end Sample

theorem failure_changes_nothing_broken :
    (handle .everyone Sample.waiting Sample.occasion Sample.broken).1.status = 400 ∧
    Unchanged Sample.waiting (handle .everyone Sample.waiting Sample.occasion Sample.broken).2 := by
  have hstatus : (handle .everyone Sample.waiting Sample.occasion Sample.broken).1.status = 400 := by
    decide +kernel
  have hreached : (start .empty none ⟨none⟩).Reached Sample.waiting := .call .start _ rfl
  have hbody : Sample.broken.body.Undisturbed := by
    intro c hc
    exact ⟨[123],List.mem_singleton.mp hc⟩
  refine ⟨hstatus,(failure_changes_nothing hreached .everyone Sample.occasion Sample.broken).1 hbody
    Sample.draws_occasion ?_⟩
  simp [Reply.isSuccess,hstatus]

end Http.Server

end BuildFarm
