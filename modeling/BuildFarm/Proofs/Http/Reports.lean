import BuildFarm.Proofs.Http.Location
import BuildFarm.Proofs.Http.Quiet
import BuildFarm.Proofs.Queue.Conclusions
import BuildFarm.Proofs.Registry.Retiring

namespace BuildFarm

/-- A body that comes in alone and whole is taken as it is. -/
theorem Body.collect_whole {b : Body} (alone : b.Undisturbed) (whole : b.failure = none)
    {limit : Nat} (fits : b.content.length ≤ limit) (d : Disk) :
    b.collect limit d = (.ok b.content,d) := by
  have more (chunks : List Chunk) (hc : ∀ c ∈ chunks, ∃ bs, c = .bytes bs) (taken : List Bytes)
      (size : Nat) (hl : size + (Body.mk chunks none).content.length ≤ limit) :
      collectFrom limit none d taken size chunks =
        (.ok (taken.reverse.flatten ++ (Body.mk chunks none).content),d) := by
    induction chunks generalizing taken size with
    | nil => simp [collectFrom,content]
    | cons c rest ih =>
      rw [List.forall_mem_cons] at hc
      obtain ⟨⟨bs,rfl⟩,hc⟩ := hc
      have hcontent : (Body.mk (.bytes bs :: rest) none).content =
          bs ++ (Body.mk rest none).content := rfl
      rw [hcontent,List.length_append] at hl
      unfold collectFrom
      rw [if_neg (by omega),ih hc (bs :: taken) (size + bs.length) (by omega),hcontent]
      simp
  obtain ⟨chunks,failure⟩ := b
  obtain rfl : failure = none := whole
  exact more chunks alone [] 0 (by rwa [Nat.zero_add])

namespace Store

/-- In memory one record is changed, and no others wait for it. -/
theorem update_memory {s : Store} {id : JobId} (hf : s.faults = []) (hr : s.root = none)
    (hold : s.find? id = some old) (hc : old.changeAll cs = .ok new) :
    s.update id cs = (.ok new,{ s with index := s.index.replace id old new }) := by
  have hp : s.persist new = (.ok (),s) := by simp [persist,hr]
  rw [update,guarded_faultless hf,updateRecord]
  simp only [hold,hc,hp]

/-- The store with another record for the job; the same jobs wait. -/
def recorded (s : Store) (id : JobId) (j : Job) : Store :=
  { s with index := { s.index with records := Table.insert s.index.records id j } }

end Store

namespace Queue

/-- A report that ends the claim of a job that runs. -/
theorem conclude_memory {q : Queue} {token : DispatchToken} {status : Option JobStatus}
    (hf : q.store.faults = []) (hr : q.store.root = none) (hl : q.tokens.live[token]? = some job)
    (hold : q.store.find? job = some old) (hrun : old.status = .running)
    (ht : (status.getD .finished).isTerminal = true) (r : Reading) (result : Option Json) :
    q.conclude r token status result = (.ok (),
      ⟨q.store.recorded job (old.ended (status.getD .finished) result r.now),
        (q.tokens.retire r.uptime token).2⟩) := by
  have hc : old.changeAll [.conclude (status.getD .finished) result r.now] =
      .ok (old.ended (status.getD .finished) result r.now) := by
    rcases old.conclude_cases result r.now ht with ⟨_,hc⟩ | ⟨hn,_⟩
    · rwa [Job.changeAll_singleton]
    · exact absurd hrun hn
  have hpending : (old.ended (status.getD .finished) result r.now).status ≠ .pending := by
    change status.getD .finished ≠ .pending
    intro he
    rw [he] at ht
    cases ht
  rw [conclude,Registry.resolveLive_ok.mpr hl]
  dsimp only
  rw [if_pos ht,Store.update_memory hf hr hold hc]
  simp [Index.replace,hrun,hpending,Store.recorded]

end Queue

namespace Services

/-- Where the records are kept and how long tokens are known stays. -/
structure Kept (i s : Services) : Prop where
  root : s.queue.store.root = i.queue.store.root
  ttl : s.queue.tokens.ttl = i.queue.tokens.ttl
  capacity : s.queue.tokens.capacity = i.queue.tokens.capacity

theorem Kept.call (h : Kept i s) (hs : Orderly s) (a : Action) : Kept i (s.call a) := by
  obtain ⟨hroot,_,he⟩ := Queue.step_effect hs.regular a
  obtain ⟨httl,hcap⟩ := he.limits hs.regular
  exact ⟨hroot.trans h.root,httl.trans h.ttl,hcap.trans h.capacity⟩

theorem Kept.handled {t : Services} (h : Kept i s) (hs : Orderly s)
    (ht : Http.Server.Handled s t) : Kept i t := by
  cases ht with
  | disk d => exact ⟨h.root,h.ttl,h.capacity⟩
  | call d a _ =>
    have hd : Kept i (s.withDisk d) := ⟨h.root,h.ttl,h.capacity⟩
    exact hd.call (hs.withDisk d) a

theorem Reached.kept {i s : Services} (hi : Orderly i) (h : Reached i s) : Kept i s := by
  induction h with
  | start => exact ⟨rfl,rfl,rfl⟩
  | call before a calls ih => exact ih.call (before.orderly hi) a
  | @request s before access o r ih =>
    have hs := before.orderly hi
    exact ih.handled hs (Http.Server.handle_handled access s o r)

end Services

namespace Http

/-- The text in the path names the token. -/
def Spells (raw : List Char) (t : DispatchToken) : Prop :=
  ∃ text, parameter? raw = some text ∧ DispatchToken.parse text = .ok t

/-- The body is read as the report. -/
def Tells (bytes : Bytes) (report : Report) : Prop :=
  Json.parse (Json.Reader.record Report.shape Json.maxLevels) (Glyph.ofBytes bytes) = .ok report

/-- A report that says nothing of the status ends the claim well. -/
def Report.Ends (report : Report) : Prop :=
  report.status = none ∨ report.status = some .finished ∨ report.status = some .failed

namespace Server

/-- The services after a report on the claim of the job under the token: the record of the job says
how it has ended, the token is retired, and that is all. -/
structure Ended (s : Services) (o : Occasion) (t : DispatchToken) (job : JobId) (report : Report)
    (u : Services) : Prop where
  record : ∃ old, s.queue.store.find? job = some old ∧
    u.queue.store = s.queue.store.recorded job
      (old.ended (report.status.getD .finished) report.result o.reading.now)
  token : s.queue.tokens.Retired o.reading.uptime t job u.queue.tokens
  artifacts : u.artifacts = s.artifacts

/-- What comes of a report: the first thing that is wrong with it decides. -/
inductive Judged (s : Services) (o : Occasion) (raw : List Char) (bytes : Bytes) :
    Nat → Services → Prop
  | unnamed (no : ∀ t, ¬Spells raw t) : Judged s o raw bytes 400 s
  | untold (named : Spells raw t) (no : ∀ report, ¬Tells bytes report) : Judged s o raw bytes 400 s
  | dead (named : Spells raw t) (told : Tells bytes report)
      (no : s.queue.tokens.live[t]? = none) : Judged s o raw bytes 404 s
  | unended (named : Spells raw t) (told : Tells bytes report)
      (live : s.queue.tokens.live[t]? = some job) (no : ¬report.Ends) : Judged s o raw bytes 400 s
  | ended (named : Spells raw t) (told : Tells bytes report)
      (live : s.queue.tokens.live[t]? = some job) (ends : report.Ends)
      (after : Ended s o t job report u) : Judged s o raw bytes 200 u

theorem tokenOf_ok {raw : List Char} : tokenOf raw = .ok t ↔ Spells raw t := by
  unfold tokenOf Spells
  cases parameter? raw with
  | none => simp
  | some text => cases hp : DispatchToken.parse text <;> simp [hp,Except.mapError]

theorem tokenOf_failed {raw : List Char} (h : tokenOf raw = .error reply) :
    reply.status = 400 ∧ ∀ t, ¬Spells raw t := by
  refine ⟨?_,fun t ht => ?_⟩
  · unfold tokenOf at h
    split at h
    · cases h
      rfl
    · rename_i text _
      cases hp : DispatchToken.parse text <;> rw [hp] at h <;> cases h
      rfl
  · rw [tokenOf_ok.mpr ht] at h
    cases h

/-- An empty body is no report either way. -/
theorem decodeBody_ok {bytes : Bytes} :
    decodeBody Report.shape bytes = .ok report ↔ Tells bytes report := by
  unfold decodeBody Tells
  split
  · rename_i hn
    rw [List.isEmpty_iff.mp hn]
    exact ⟨nofun,fun h => by cases h⟩
  · split <;> simp [*]

theorem decodeBody_failed {bytes : Bytes} (h : decodeBody Report.shape bytes = .error reply) :
    reply.status = 400 ∧ ∀ report, ¬Tells bytes report := by
  refine ⟨decodeBody_refused h,fun report ht => ?_⟩
  rw [decodeBody_ok.mpr ht] at h
  cases h

theorem ends_iff {report : Report} :
    report.Ends ↔ (report.status.getD .finished).isTerminal = true := by
  obtain ⟨status,_⟩ := report
  rcases status with _ | _ | _ | _ | _ <;> simp [Report.Ends,JobStatus.isTerminal]

/-- The job of a live token runs, so a report that ends the claim is taken. -/
theorem conclude_ended {s : Services} (hs : s.Orderly) (hr : s.queue.store.root = none)
    (ht : 0 < s.queue.tokens.ttl) (hc : 0 < s.queue.tokens.capacity) (o : Occasion)
    {report : Report} (hl : s.queue.tokens.live[t]? = some job) (he : report.Ends) :
    ∃ q, s.queue.conclude o.reading t report.status report.result = (.ok (),q) ∧
      Ended s o t job report { s with queue := q } := by
  obtain ⟨old,hold,hrun⟩ := hs.running t job hl
  exact ⟨_,Queue.conclude_memory hs.faultless hr hl hold hrun (ends_iff.mp he) _ _,⟨old,hold,rfl⟩,
    Registry.retire_retired hs.regular.sound ht hc o.reading.uptime hl,rfl⟩

theorem conclude_unended {q : Queue} {t : DispatchToken} {report : Report} (hl : q.tokens.live[t]? = some job)
    (he : ¬report.Ends) (r : Reading) : q.conclude r t report.status report.result =
      (.error (.invalidStatus (report.status.getD .finished)),q) := by
  rw [Queue.conclude,Registry.resolveLive_ok.mpr hl]
  dsimp only
  rw [if_neg (mt ends_iff.mpr he)]

theorem concludeJob_judged {s : Services} (hs : s.Orderly) (hr : s.queue.store.root = none)
    (ht : 0 < s.queue.tokens.ttl) (hc : 0 < s.queue.tokens.capacity) (o : Occasion)
    (raw : List Char) {body : Body} (alone : body.Undisturbed) (whole : body.failure = none)
    (fits : body.content.length ≤ maxBodyBytes) :
    Judged s o raw body.content (concludeJob s o raw body).1.status
      (concludeJob s o raw body).2 := by
  have hbody : takeBody s body = (.ok body.content,s) := by
    rw [takeBody,Body.collect_whole alone whole fits]
    rfl
  unfold concludeJob
  cases hraw : parameter? raw with
  | none =>
    refine .unnamed (fun t ht => ?_)
    obtain ⟨text,htext,_⟩ := ht
    rw [hraw] at htext
    cases htext
  | some text =>
    rw [hbody]
    dsimp only
    cases htoken : tokenOf raw with
    | error reply =>
      obtain ⟨h400,hno⟩ := tokenOf_failed htoken
      dsimp only
      rw [h400]
      exact .unnamed hno
    | ok t =>
      have named := tokenOf_ok.mp htoken
      cases hreport : decodeBody Report.shape body.content with
      | error reply =>
        obtain ⟨h400,hno⟩ := decodeBody_failed hreport
        dsimp only
        rw [h400]
        exact .untold named hno
      | ok report =>
        have told := decodeBody_ok.mp hreport
        dsimp only
        cases hl : s.queue.tokens.live[t]? with
        | none =>
          rw [Queue.refuses_unless_live hl]
          cases s.queue.tokens.retired.contains t <;> exact .dead named told hl
        | some job =>
          by_cases he : report.Ends
          · obtain ⟨q,hq,hended⟩ := conclude_ended hs hr ht hc o hl he
            rw [hq]
            exact .ended named told hl he hended
          · rw [conclude_unended hl he]
            exact .unended named told hl he

theorem spells_unique {raw : List Char} (h : Spells raw t) (h' : Spells raw t') : t = t' :=
  Except.ok.inj ((tokenOf_ok.mpr h).symm.trans (tokenOf_ok.mpr h'))

theorem tells_unique {bytes : Bytes} (h : Tells bytes report) (h' : Tells bytes report') :
    report = report' :=
  Except.ok.inj (h.symm.trans h')

/-- All that a report is accepted for. -/
def Acceptable (s : Services) (raw : List Char) (bytes : Bytes) : Prop :=
  ∃ t report job, Spells raw t ∧ Tells bytes report ∧ s.queue.tokens.live[t]? = some job ∧ report.Ends

theorem Judged.accepted_iff {u : Services} (h : Judged s o raw bytes status u) :
    status = 200 ↔ Acceptable s raw bytes := by
  constructor
  · intro h200
    cases h with
    | ended named told live ends after => exact ⟨_,_,_,named,told,live,ends⟩
    | _ => cases h200
  · rintro ⟨t,report,job,hnamed,htold,hlive,hends⟩
    cases h with
    | unnamed no => exact absurd hnamed (no t)
    | untold named no => exact absurd htold (no report)
    | dead named told no =>
      cases spells_unique named hnamed
      rw [hlive] at no
      cases no
    | unended named told live no =>
      cases tells_unique told htold
      exact absurd hends no
    | ended => rfl

/-- Any report in services that calls and requests have made of empty ones in memory. -/
theorem reports_judged {s : Services} {disk : Disk} {artifacts : Artifacts}
    (reached : (Services.start disk none artifacts).Reached s) (o : Occasion) {r : Request}
    (method : r.method = "PATCH") (path : Endpoint.ofPath? r.path = some (.job raw))
    (alone : r.body.Undisturbed) (whole : r.body.failure = none)
    (fits : r.body.content.length ≤ maxBodyBytes) :
    ((handle .everyone s o r).1.status = 200 ↔ Acceptable s raw r.body.content) ∧
    Judged s o raw r.body.content (handle .everyone s o r).1.status (handle .everyone s o r).2 := by
  have hstart := Services.orderly_start disk none artifacts
  have hkept := reached.kept hstart
  have haction : (Endpoint.job raw).action? r.method = some (.concludeJob raw) := by
    rw [method]
    rfl
  have httl : 0 < Registry.defaultTtl := by decide
  have hcapacity : 0 < Registry.defaultCapacity := by decide
  have hj := concludeJob_judged (reached.orderly hstart) hkept.root
    (httl.trans_eq hkept.ttl.symm) (hcapacity.trans_eq hkept.capacity.symm) o raw alone whole fits
  rw [handle_everyone path haction (by simp [method]),Reply.sized_status,perform]
  exact ⟨hj.accepted_iff,hj⟩

namespace Sample

open Services.Sample Queue.Sample

/-- A report without a status. -/
def done : Request :=
  ⟨"PATCH",jobLocation (ticket 1),[],.ofText "\x7b\"result\":[1],\"status\":null\x7d"⟩

theorem claimed_reached :
    (Services.start .empty none ⟨some "r"⟩).Reached Services.Sample.claimed := by
  have hwaiting : (Services.start .empty none ⟨some "r"⟩).Reached Services.Sample.waiting :=
    .call .start (.enqueue parent .epoch ⟨"build","x86"⟩ .null []) rfl
  have hclaimed : Services.Sample.waiting.call (.request Services.Sample.occasion.reading
      Services.Sample.occasion.tokens anyWork) = Services.Sample.claimed := by
    rw [Services.call,Queue.step,request_waiting]
    rfl
  exact hclaimed ▸ hwaiting.call _ rfl

theorem done_path : Endpoint.ofPath? done.path = some (.job (ticket 1).uuid.render) := by
  decide +kernel

theorem done_told : ∃ report, Tells done.body.content report ∧ report.status = none ∧
    report.result.isSome = true := by
  have h : (Json.parse (Json.Reader.record Report.shape Json.maxLevels)
      (Glyph.ofBytes done.body.content)).toOption.any
        (fun report => report.status.isNone && report.result.isSome) = true := by
    decide +kernel
  cases hr : Json.parse (Json.Reader.record Report.shape Json.maxLevels)
      (Glyph.ofBytes done.body.content) with
  | error e =>
    rw [hr] at h
    cases h
  | ok report =>
    rw [hr] at h
    obtain ⟨hs,hresult⟩ := Bool.and_eq_true_iff.mp h
    exact ⟨report,hr,Option.isNone_iff_eq_none.mp hs,hresult⟩

end Sample

theorem reports_judged_done : ∃ report : Report, report.status = none ∧ report.result.isSome = true ∧
    (handle .everyone Services.Sample.claimed Services.Sample.occasion Sample.done).1.status = 200 ∧
    Ended Services.Sample.claimed Services.Sample.occasion (Queue.Sample.ticket 1)
      Queue.Sample.parent report
      (handle .everyone Services.Sample.claimed Services.Sample.occasion Sample.done).2 := by
  obtain ⟨report,htold,hstatus,hresult⟩ := Sample.done_told
  have hnamed : Spells (Queue.Sample.ticket 1).uuid.render (Queue.Sample.ticket 1) :=
    tokenOf_ok.mp (tokenOf_render _)
  have hlive : Services.Sample.claimed.queue.tokens.live[Queue.Sample.ticket 1]? =
      some Queue.Sample.parent := by
    simp [Services.Sample.claimed,Queue.Sample.holding,Queue.Sample.bound]
  obtain ⟨haccepted,hjudged⟩ := reports_judged Sample.claimed_reached Services.Sample.occasion rfl
    Sample.done_path (Body.undisturbed_ofBytes _) rfl (by decide +kernel)
  have h200 := haccepted.mpr ⟨_,report,_,hnamed,htold,hlive,Or.inl hstatus⟩
  refine ⟨report,hstatus,hresult,h200,?_⟩
  rw [h200] at hjudged
  cases hjudged with
  | ended named told live _ after =>
    cases spells_unique named hnamed
    cases tells_unique told htold
    cases live.symm.trans hlive
    exact after

end Server

end Http

end BuildFarm
