import BuildFarm.Proofs.Client.Bodies
import BuildFarm.Proofs.Client.Calls
import BuildFarm.Proofs.Queue.Dependencies

namespace BuildFarm

open Json Json.Reader

namespace Http.Server

theorem takeBody_ofText {text : String} (h : (Bytes.ofText text).length ≤ maxBodyBytes)
    (s : Services) : takeBody s (.ofText text) = (.ok (Bytes.ofText text),s) := by
  have hfits : ¬maxBodyBytes < 0 + (Bytes.ofText text).length := by omega
  simp only [takeBody,Body.ofText,Body.ofBytes,Body.collect,Body.collectFrom,if_neg hfits]
  simp [Services.withDisk,Services.disk]

/-- What a server makes of the answer of the queue to whoever asks for a job. -/
def given (s : Services) : Except QueueError (Option Claim) × Queue → Reply × Services
  | (.error e,q) => (queueFault e,{ s with queue := q })
  | (.ok none,q) => (.empty 204,{ s with queue := q })
  | (.ok (some c),q) => (.json 201 (claimJson c),{ s with queue := q })

end Http.Server

namespace Client

open Http

/-- The body of a request is no longer than a server takes. -/
def Unsent.Fits (r : Unsent) : Prop :=
  r.body.content.length ≤ maxBodyBytes

theorem Unsent.Fits.bytes {r : Unsent} {text : String} (h : r.Fits) (hb : r.body = .ofText text) :
    (Bytes.ofText text).length ≤ maxBodyBytes := by
  rw [Unsent.Fits,hb] at h
  simpa [Body.ofText,Body.ofBytes,Body.content] using h

/-- What a worker is told of an answer of the queue. -/
def heard (r : Except QueueError α) : Except ClientError α :=
  r.mapError (fun e => .api (queueFault e).status (queueFault e).body)

theorem queueFault_failure (e : QueueError) : ∃ status code message,
    queueFault e = .failure status code message ∧ (queueFault e).isSuccess = false := by
  cases e <;> exact ⟨_,_,_,rfl,rfl⟩

/-- What the queue fails with comes to the worker. -/
theorem reading_queueFault (e : QueueError) (k : Worker) (w : σ)
    (read : Answer → Except ClientError α) : Worker.reading (answered (queueFault e),k,w) read =
      (.error (.api (queueFault e).status (queueFault e).body),k,w) := by
  obtain ⟨status,code,message,he,hs⟩ := queueFault_failure e
  rw [answered,hs,he,text_failure]
  rfl

theorem reading_success {r : Reply} (h : r.isSuccess = true) (k : Worker) (w : σ)
    (read : Answer → Except ClientError α) :
    Worker.reading (answered r,k,w) read = (read (.ofReply r.sized),k,w) := by
  rw [answered,h]
  rfl

/-- A reply of JSON is read, or what it was made of is not to be read. -/
theorem readBody_cases {r : Reader α} {j : Json} {P : α → Prop} (status : Nat)
    (h : Reads r fault ([] ++ (glyphs (Style.tight.spelled 0 j) ++ [])) [] P) :
    (∃ a, Worker.readBody r (.ofReply (Reply.json status j).sized) = .ok a ∧ P a) ∨
    (Worker.readBody r (.ofReply (Reply.json status j).sized) = .error .unreadable ∧ fault) := by
  rw [List.nil_append,List.append_nil,Style.spelled_tight] at h
  have hp := h.parse_cases
  have hbody : (Answer.ofReply (Reply.json status j).sized).body = Bytes.ofText j.compactText := rfl
  rw [Worker.readBody,hbody,compactText,ofBytes_ofText]
  cases hr : Json.parse r (glyphs (compact j)) with
  | ok a =>
    rw [hr] at hp
    exact Or.inl ⟨a,rfl,hp⟩
  | error f =>
    rw [hr] at hp
    exact Or.inr ⟨rfl,hp⟩

/-- A reply of JSON is read as what it was made of. -/
theorem readBody_json {r : Reader α} {j : Json} {a : α} (status : Nat)
    (h : Reads r False ([] ++ (glyphs (Style.tight.spelled 0 j) ++ [])) [] (· = a)) :
    Worker.readBody r (.ofReply (Reply.json status j).sized) = .ok a := by
  rcases readBody_cases status h with ⟨_,hr,rfl⟩ | ⟨_,hn⟩
  · exact hr
  · exact hn.elim

theorem created_status (j : Json) : (Answer.ofReply (Reply.json 201 j).sized).status ≠ 204 := by
  change 201 ≠ 204
  decide

/-- The claim that a server tells of is the one that its worker holds. -/
theorem readBody_claim {claim : Claim} (hl : claim.Legible)
    (hn : ∀ rs, claim.dynamicArgs = some rs → (rs.map Prod.fst).Nodup) :
    Worker.readBody Handle.read (.ofReply (Reply.json 201 (claimJson claim)).sized) =
      .ok (.ofClaim claim) :=
  readBody_json 201 (Handle.legible_reads hl hn 0 blank_nil)

section

variable {k after : Worker} {u : Url} {c : Transport Services} {o : Occasion} {m : Moment}
  {s : Services}

/-- What a server does when it is asked for a job. -/
theorem perform_jobRequest {kinds : List String} {arch : String}
    (hfits : (k.jobRequest kinds arch).Fits) :
    Server.perform s o (k.jobRequest kinds arch).body .requestJob =
      Server.given s (s.queue.request o.reading o.tokens ⟨kinds,arch⟩) := by
  have hbody : (k.jobRequest kinds arch).body = .ofText (Json.object [("arch",.text arch),
      ("types",.array (kinds.map .text))]).compactText := rfl
  have hdecoded := decodeBody_compactText (JobWanted.read_reads kinds arch 0 blank_nil)
  simp only [Server.perform,hbody,Server.requestJob,Server.takeBody_ofText (hfits.bytes hbody),
    hdecoded,JobWanted.filter]
  rfl

theorem call_jobRequest (hc : Connected k u c o) (hg : Granted c m s k after) (kinds : List String)
    (arch : String) : k.call (k.jobRequest kinds arch) c m s =
      (answered (Server.perform s o (k.jobRequest kinds arch).body .requestJob).1,after,
        (Server.perform s o (k.jobRequest kinds arch).body .requestJob).2) := by
  have hu : (k.jobRequest kinds arch).url = k.server ++ String.ofList (Url.segmentText jobsPath) :=
    String.append_assoc
  have hm : (k.jobRequest kinds arch).method ≠ "HEAD" := by
    change "POST" ≠ "HEAD"
    decide
  exact call_connected hc hg leads_jobs hu rfl rfl hm

/-- Asking for a job over the wire is asking the queue for one. -/
theorem requestJob_local (hc : Connected k u c o) (hg : Granted c m s k after) (kinds : List String)
    (arch : String) (hfits : (k.jobRequest kinds arch).Fits)
    (hlegible : ∀ claim, (s.queue.request o.reading o.tokens ⟨kinds,arch⟩).1 = .ok (some claim) →
      claim.Legible) :
    k.requestJob kinds arch c m s =
      (heard ((s.queue.request o.reading o.tokens ⟨kinds,arch⟩).1.map (Option.map .ofClaim)),after,
        { s with queue := (s.queue.request o.reading o.tokens ⟨kinds,arch⟩).2 }) := by
  rw [Worker.requestJob,call_jobRequest hc hg,perform_jobRequest hfits]
  have hdistinct (claim : Claim)
      (h : (s.queue.request o.reading o.tokens ⟨kinds,arch⟩).1 = .ok (some claim))
      (rs : List (JobId × Json)) (hrs : claim.dynamicArgs = some rs) : (rs.map Prod.fst).Nodup :=
    Queue.request_nodup h hrs
  cases hq : s.queue.request o.reading o.tokens ⟨kinds,arch⟩ with
  | mk r q =>
    rw [hq] at hlegible hdistinct
    cases r with
    | error e => exact reading_queueFault e _ _ _
    | ok given =>
      cases given with
      | none => rfl
      | some claim =>
        dsimp only [Server.given]
        rw [reading_success rfl,if_neg (created_status _),
          readBody_claim (hlegible claim rfl) (hdistinct claim rfl)]
        rfl

/-- Looking for cancellation over the wire is looking in the queue. -/
theorem canceled_local (hc : Connected k u c o) (hg : Granted c m s k after) {h : Handle}
    {t : DispatchToken} (hh : h.location = jobLocation t) :
    k.canceled h c m s = (heard (s.queue.isCanceled t).1,after,
      { s with queue := (s.queue.isCanceled t).2 }) := by
  have hu : (k.canceledRequest h).url = k.server ++ String.ofList (Url.segmentText (jobPath t)) := by
    rw [← jobLocation_path,← hh]
    rfl
  have hm : (k.canceledRequest h).method ≠ "HEAD" := by
    change "GET" ≠ "HEAD"
    decide
  rw [Worker.canceled,call_connected hc hg (leads_job t) hu rfl rfl hm]
  simp only [Server.perform,Server.showJob,tokenOf_render]
  cases s.queue.isCanceled t with
  | mk r q =>
    cases r with
    | error e => exact reading_queueFault e _ _ _
    | ok b =>
      have hread := readBody_json 200 (Worker.canceled_reads b 0 blank_nil)
      dsimp only
      rw [reading_success rfl,hread]
      rfl

/-- Reporting over the wire is concluding in the queue, with a result that is null taken for none. -/
theorem report_local (hc : Connected k u c o) (hg : Granted c m s k after) {h : Handle}
    {t : DispatchToken} (hh : h.location = jobLocation t) (outcome : Option Outcome)
    {result : Option Json} (hfits : (k.reportRequest h outcome result).Fits)
    (hlegible : ∀ v, result = some v → v.LegibleWithin 126) :
    k.report h outcome result c m s =
      (heard (s.queue.conclude o.reading t (outcome.map Outcome.status)
        (Job.settledResult result)).1,after,{ s with queue :=
          (s.queue.conclude o.reading t (outcome.map Outcome.status)
            (Job.settledResult result)).2 }) := by
  have hu : (k.reportRequest h outcome result).url =
      k.server ++ String.ofList (Url.segmentText (jobPath t)) := by
    rw [← jobLocation_path,← hh]
    rfl
  have hm : (k.reportRequest h outcome result).method ≠ "HEAD" := by
    change "PATCH" ≠ "HEAD"
    decide
  have hdecoded := decodeBody_compactText
    (Report.read_reads (outcome.map Outcome.status) hlegible 0 blank_nil)
  have hbody : (k.reportRequest h outcome result).body = .ofText (Json.object
      (((outcome.map Outcome.status).map (fun s => ("status",s.toJson))).toList ++
        (result.map (fun j => ("result",j))).toList)).compactText := by
    rw [Option.map_map]
    rfl
  rw [Worker.report,call_connected hc hg (leads_job t) hu rfl rfl hm]
  simp only [Server.perform,hbody,Server.concludeJob,parameter?_render,
    Server.takeBody_ofText (hfits.bytes hbody),tokenOf_render,hdecoded]
  cases s.queue.conclude o.reading t (outcome.map Outcome.status) (Job.settledResult result) with
  | mk r q =>
    cases r with
    | error e => exact reading_queueFault e _ _ _
    | ok _ => rfl

/-- A worker over the wire is as one at the queue. It is told what the queue answers, a claim with
what the queue gives for it, and an error with the status that stands for it. Its call leaves the
services as the call of the queue leaves them. -/
theorem remote_is_local (hc : Connected k u c o) (hg : Granted c m s k after) :
    (∀ kinds arch, (k.jobRequest kinds arch).Fits →
      (∀ claim, (s.queue.request o.reading o.tokens ⟨kinds,arch⟩).1 = .ok (some claim) →
        claim.Legible) →
      k.requestJob kinds arch c m s =
        (heard ((s.queue.request o.reading o.tokens ⟨kinds,arch⟩).1.map (Option.map .ofClaim)),after,
          { s with queue := (s.queue.request o.reading o.tokens ⟨kinds,arch⟩).2 })) ∧
    ∀ h t, h.location = jobLocation t →
      k.canceled h c m s = (heard (s.queue.isCanceled t).1,after,
        { s with queue := (s.queue.isCanceled t).2 }) ∧
      ∀ outcome result, (k.reportRequest h outcome result).Fits →
        (∀ v, result = some v → v.LegibleWithin 126) →
        k.report h outcome result c m s =
          (heard (s.queue.conclude o.reading t (outcome.map Outcome.status)
            (Job.settledResult result)).1,after,{ s with queue := (s.queue.conclude o.reading t
              (outcome.map Outcome.status) (Job.settledResult result)).2 }) :=
  ⟨fun kinds arch hfits hlegible => requestJob_local hc hg kinds arch hfits hlegible,
    fun _ _ hh => ⟨canceled_local hc hg hh,
      fun outcome _ hfits hlegible => report_local hc hg hh outcome hfits hlegible⟩⟩

end

namespace Sample

open Queue.Sample in
/-- One job is waiting. -/
def waiting : Services :=
  ⟨holding [(parent,job parent [])] [parent] .fresh,⟨none⟩⟩

open Queue.Sample in
/-- The job is with a worker. -/
def working : Services :=
  ⟨holding [(parent,(job parent []).taken .epoch)] [] bound,⟨none⟩⟩

def called (n : Nat) : Occasion :=
  ⟨Queue.Sample.reading n,[Queue.Sample.ticket 1],.ofNat 3⟩

def held : Handle :=
  .ofClaim ⟨Queue.Sample.ticket 1,Queue.Sample.parent,⟨"build","x86"⟩,.null,none⟩

def access : AccessToken := ⟨"a",.epoch,.ofSeconds 900⟩

/-- A worker with a token that is fresh at the epoch. -/
def signed : Worker :=
  { worker with tokens := some ⟨⟨"http://[::1]/token","r","c"⟩,some access⟩ }

theorem connected_on {k : Worker} (hk : k.server = worker.server) (o : Occasion) :
    Connected k url (loopback .everyone o) o where
  server := hk ▸ server
  web := by decide +kernel
  room := by decide +kernel
  faithful _ _ _ _ := rfl

theorem connected {k : Worker} (hk : k.server = worker.server) (n : Nat) :
    Connected k url (loopback .everyone (called n)) (called n) :=
  connected_on hk (called n)

theorem granted (c : Transport Services) (s : Services) :
    Granted c ⟨.epoch,.epoch⟩ s signed signed := by
  have fresh : (⟨⟨"http://[::1]/token","r","c"⟩,some access⟩ : TokenSource).fresh? .epoch =
      some access := by
    decide +kernel
  exact .cached rfl fresh (by decide +kernel)

end Sample

open Sample Queue.Sample in
/-- A worker gets the job that waits, and one with a token reports on it. -/
theorem remote_is_local_worked :
    worker.requestJob ["build"] "x86" (loopback .everyone (called 0)) ⟨.epoch,.epoch⟩ waiting =
      (.ok (some held),worker,working) ∧
    signed.report held none (some (.text "done")) (loopback .everyone (called 1)) ⟨.epoch,.epoch⟩
      working =
        (.ok (),signed,⟨holding [(parent,built)] [] (bound.retire 1 (ticket 1)).2,⟨none⟩⟩) := by
  constructor
  · obtain ⟨hrequest,_⟩ := remote_is_local (s := waiting) (m := ⟨.epoch,.epoch⟩) (connected rfl 0)
      (.anonymous rfl)
    have hfits : (worker.jobRequest ["build"] "x86").Fits := by
      unfold Unsent.Fits
      decide +kernel
    have hclaimed : waiting.queue.request (called 0).reading (called 0).tokens
        ⟨["build"],"x86"⟩ = _ := claimed_step
    rw [hrequest ["build"] "x86" hfits ?_,hclaimed]
    · rfl
    · rw [hclaimed]
      rintro _ ⟨⟩
      exact ⟨⟨⟨Nat.zero_le _,rfl⟩,rfl⟩,nofun⟩
  · obtain ⟨_,hheld⟩ := remote_is_local (connected (k := signed) rfl 1) (granted _ working)
    obtain ⟨_,hreport⟩ := hheld held (ticket 1) rfl
    have hfits : (signed.reportRequest held none (some (.text "done"))).Fits := by
      unfold Unsent.Fits
      decide +kernel
    have hconcluded : working.queue.conclude (called 1).reading (ticket 1)
        ((none : Option Outcome).map Outcome.status) (Job.settledResult (some (.text "done"))) = _ :=
      concluded_step
    rw [hreport none (some (.text "done")) hfits ?_,hconcluded]
    · rfl
    · rintro _ ⟨⟩
      exact ⟨⟨Nat.zero_le _,rfl⟩,rfl⟩

end Client

end BuildFarm
