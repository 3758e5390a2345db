import BuildFarm.Proofs.Client.Remote
import BuildFarm.Proofs.Http.Handing
import BuildFarm.Proofs.Queue.Reopening

namespace BuildFarm

open Json Json.Reader

theorem Claim.Shallow.readable {c : Claim} (h : c.Shallow) (hargs : Json.Readable 126 c.args)
    (hresults : ∀ rs, c.dynamicArgs = some rs → ∀ r ∈ rs, Json.Readable 126 r.2) : c.Readable :=
  ⟨hargs,fun rs hrs r hr => ⟨h rs hrs r hr,(hresults rs hrs r hr).numbers⟩⟩

namespace Client

open Http

/-- A worker that was answered with a claim reads it. -/
theorem Worker.requestJob_answered {k after : Worker} {t : Transport σ} {m : Moment} {w w' : σ}
    {j : Json} (h : k.call (k.jobRequest kinds arch) t m w =
      (.ok (.ofReply (Reply.json 201 j).sized),after,w')) :
    k.requestJob kinds arch t m w =
      ((Worker.readBody Handle.read (.ofReply (Reply.json 201 j).sized)).map some,after,w') := by
  simp only [Worker.requestJob,h,Worker.reading,Except.bind,if_neg (created_status j)]

/-- Where the values of a claim have had room in an enqueued job and in reports, the claim is read if
and only if its results have room one level deeper. -/
theorem readBody_shallow {claim : Claim}
    (hn : ∀ rs, claim.dynamicArgs = some rs → (rs.map Prod.fst).Nodup)
    (hargs : Json.Readable 126 claim.args)
    (hresults : ∀ rs, claim.dynamicArgs = some rs → ∀ r ∈ rs, Json.Readable 126 r.2) :
    (claim.Shallow ∧ ∃ h, Worker.readBody Handle.read
        (.ofReply (Reply.json 201 (claimJson claim)).sized) = .ok h ∧ Handle.Found claim h) ∨
    (¬claim.Shallow ∧ Worker.readBody Handle.read
        (.ofReply (Reply.json 201 (claimJson claim)).sized) = .error .unreadable) := by
  rcases readBody_cases 201 (Handle.read_reads hn 0 blank_nil) with ⟨h,hread,hfound⟩ | ⟨hread,hr⟩
  · exact Or.inl ⟨hfound.shallow,h,hread,hfound⟩
  · exact Or.inr ⟨fun hshallow => hr (hshallow.readable hargs hresults),hread⟩

/-- In a run in which results come in with reports alone, whoever is handed a job reads the claim if
and only if no result in it is nested too deeply, and can make nothing of the reply otherwise. -/
theorem delivered_iff {access : Access} {disk : Disk} {root : Option Path} {artifacts : Artifacts}
    {run : List Services.Deed} {s : Services} (reported : ∀ d ∈ run, d.Reported)
    (made : (Services.start disk root artifacts).after access run = s)
    (modest : ∀ id j, s.queue.store.find? id = some j → Json.Readable 100 j.args)
    {o : Occasion} {r : Request} (method : r.method = "POST")
    (path : Endpoint.ofPath? r.path = some .jobs)
    (created : (Server.handle access s o r).1.status = 201)
    {k after : Worker} {kinds : List String} {arch : String} {t : Transport σ} {m : Moment}
    {w w' : σ}
    (brought : k.call (k.jobRequest kinds arch) t m w =
      (.ok (.ofReply (Server.handle access s o r).1),after,w')) :
    ∃ claim, s.Handed (Server.handle access s o r).2 claim ∧
      ((∃ h, k.requestJob kinds arch t m w = (.ok (some h),after,w') ∧ Handle.Found claim h) ↔
        claim.Shallow) ∧
      (k.requestJob kinds arch t m w = (.error .unreadable,after,w') ↔ ¬claim.Shallow) := by
  have hs : s.Reported := made ▸ (Services.Reported.start disk root artifacts).after access reported
  obtain ⟨claim,hhanded,hreply,hresults⟩ := Server.handle_handed hs method path created
  rw [hreply] at brought
  refine ⟨claim,hhanded,?_⟩
  rw [Worker.requestJob_answered brought]
  obtain ⟨j,hj,_,hargs,_⟩ := hhanded.record
  have hmodest := modest _ j hj
  rw [← hargs] at hmodest
  have hroom : Json.Readable 126 claim.args :=
    ⟨Nat.le_trans hmodest.depth (by decide),hmodest.numbers⟩
  rcases readBody_shallow (fun rs hrs => (hresults rs hrs).1) hroom
    (fun rs hrs => (hresults rs hrs).2) with ⟨hshallow,h,hread,hfound⟩ | ⟨hdeep,hread⟩
  · rw [hread]
    exact ⟨⟨fun _ => hshallow,fun _ => ⟨h,rfl,hfound⟩⟩,⟨nofun,absurd hshallow⟩⟩
  · rw [hread]
    refine ⟨⟨?_,fun hshallow => absurd hshallow hdeep⟩,⟨fun _ => hdeep,fun _ => rfl⟩⟩
    rintro ⟨_,h,_⟩
    cases h

namespace Sample

open Queue.Sample Services.Sample

theorem nested_legible {levels : Nat} (h : n < levels) : (nested n).LegibleWithin levels := by
  induction n generalizing levels with
  | zero => exact ⟨⟨h,rfl⟩,rfl⟩
  | succ n ih =>
    obtain ⟨levels,rfl⟩ : ∃ m, levels = m + 1 := ⟨levels - 1,by omega⟩
    obtain ⟨⟨hdepth,hnumbers⟩,hsorted⟩ := ih (Nat.lt_of_succ_lt_succ h)
    refine ⟨⟨?_,?_⟩,?_⟩
    · exact Nat.succ_le_succ (Nat.max_le.mpr ⟨hdepth,Nat.zero_le _⟩)
    · exact Bool.and_eq_true_iff.mpr ⟨hnumbers,rfl⟩
    · exact congrArg (fun j => Json.array [j]) hsorted

def nestedReport (n : Nat) : Request :=
  ⟨"PATCH",jobLocation (ticket 1),[],.ofText (Json.object [("result",nested n)]).compactText⟩

/-- The first job is claimed, and another one waits for it. -/
def begun : List Services.Deed :=
  [.call (.enqueue parent .epoch ⟨"build","x86"⟩ .null []),
   .call (.request (reading 0) [ticket 1] anyWork),
   .call (.enqueue child .epoch ⟨"build","x86"⟩ .null [parent])]

/-- The first job reports arrays within each other. -/
def reporting (n : Nat) : List Services.Deed :=
  begun ++ [.request (called 1) (nestedReport n)]

def dependent : Job :=
  Queue.Sample.job child [parent]

def started : Job :=
  (Queue.Sample.job parent []).taken .epoch

def ended (n : Nat) : Job :=
  started.ended .finished (some (nested n)) .epoch

def unreported : Services :=
  ⟨holding [(parent,started),(child,dependent)] [child] bound,⟨none⟩⟩

def reported (n : Nat) : Services :=
  ⟨holding [(parent,ended n),(child,dependent)] [child] (bound.retire 1 (ticket 1)).2,
    ⟨none⟩⟩

/-- The first token is retired, so another one is drawn. -/
def next : Occasion := ⟨reading 2,[ticket 2],.ofNat 3⟩

theorem concluded_nested (n : Nat) : unreported.queue.conclude (reading 1) (ticket 1) none
    (some (nested n)) = (.ok (),(reported n).queue) := by
  have hl : unreported.queue.tokens.resolveLive (ticket 1) = .ok parent := by
    simp [Registry.resolveLive_ok,unreported,holding,bound]
  simp only [Queue.conclude,hl]
  rfl

theorem nestedReport_replied (h : n ∈ [124,125]) :
    Server.handle .everyone unreported (called 1) (nestedReport n) =
      (Server.emptyObject.sized,reported n) := by
  have hpath : Endpoint.ofPath? (nestedReport n).path = some (.job (ticket 1).uuid.render) := by
    have hp : Endpoint.ofPath? (Request.mk "PATCH" (jobLocation (ticket 1)) [] .empty).path =
        some (.job (ticket 1).uuid.render) := by
      decide +kernel
    exact hp
  have haction : (Endpoint.job (ticket 1).uuid.render).action? (nestedReport n).method =
      some (.concludeJob (ticket 1).uuid.render) := rfl
  have hhead : (nestedReport n).method ≠ "HEAD" := by
    change "PATCH" ≠ "HEAD"
    decide
  have hfits : ∀ n ∈ [124,125],
      (Bytes.ofText (Json.object [("result",nested n)]).compactText).length ≤ maxBodyBytes := by
    decide +kernel
  have hlegible : ∀ v, some (nested n) = some v → v.LegibleWithin 126 := by
    rintro _ ⟨⟩
    exact nested_legible (by simp at h; omega)
  have hdecoded : decodeBody Report.shape
      (Bytes.ofText (Json.object [("result",nested n)]).compactText) =
        .ok ⟨none,some (nested n)⟩ := by
    have hnull : nested n ≠ .null := by
      cases n <;> exact nofun
    rw [← Job.settledResult_some hnull]
    exact decodeBody_compactText (Report.read_reads none hlegible 0 blank_nil)
  have hbody : (nestedReport n).body =
      .ofText (Json.object [("result",nested n)]).compactText := rfl
  have hconcluded : unreported.queue.conclude (called 1).reading (ticket 1) none
      (some (nested n)) = _ := concluded_nested n
  rw [Server.handle_everyone hpath haction hhead]
  simp only [Server.perform,hbody,Server.concludeJob,parameter?_render,
    Server.takeBody_ofText (hfits n h),tokenOf_render,hdecoded,hconcluded]
  rfl

/-- The claim of the job that waited. -/
def handed (n : Nat) : Claim :=
  ⟨ticket 2,child,⟨"build","x86"⟩,.null,some [(parent,nested n)]⟩

theorem reported_request (n : Nat) : ∃ q,
    (reported n).queue.request next.reading next.tokens anyWork = (.ok (some (handed n)),q) := by
  have hn : (reported n).queue.store.next anyWork .epoch =
      (.ok (some (dependent.taken .epoch)),
        (holding [(parent,ended n),(child,dependent.taken .epoch)] [] bound).store) := rfl
  obtain ⟨tokens,hi⟩ := Queue.chained_issues
  exact ⟨_,Queue.request_issued (q := (reported n).queue) (r := next.reading) hn rfl hi⟩

theorem begun_after : (Services.start .empty none ⟨none⟩).after .everyone begun = unreported := by
  have hwaiting : (Services.start .empty none ⟨none⟩).call
      (.enqueue parent .epoch ⟨"build","x86"⟩ .null []) = Client.Sample.waiting := rfl
  have hworking : Client.Sample.waiting.call (.request (reading 0) [ticket 1] anyWork) =
      working := by
    rw [Services.call,Queue.step]
    exact congrArg (fun p => Services.mk p.2 ⟨none⟩) claimed_step
  have hunreported : working.call (.enqueue child .epoch ⟨"build","x86"⟩ .null [parent]) =
      unreported := rfl
  simp only [begun,Services.after,Services.does,hwaiting,hworking,hunreported]

theorem reporting_after (h : n ∈ [124,125]) :
    (Services.start .empty none ⟨none⟩).after .everyone (reporting n) = reported n := by
  have hlast : (Services.start .empty none ⟨none⟩).after .everyone (reporting n) =
      (Server.handle .everyone ((Services.start .empty none ⟨none⟩).after .everyone begun)
        (called 1) (nestedReport n)).2 := rfl
  rw [hlast,begun_after,nestedReport_replied h]

theorem reporting_reported (n : Nat) : ∀ d ∈ reporting n, d.Reported := by
  simp [reporting,begun,Services.Deed.Reported]

theorem reported_find? {id : JobId} (h : (reported n).queue.store.find? id = some j) :
    j = ended n ∨ j = dependent := by
  have hm := Table.mem_of_find? h
  simp only [reported,holding,List.mem_cons,Prod.mk.injEq,List.not_mem_nil,or_false] at hm
  rcases hm with ⟨_,rfl⟩ | ⟨_,rfl⟩
  · exact Or.inl rfl
  · exact Or.inr rfl

theorem reported_modest {id : JobId} (h : (reported n).queue.store.find? id = some j) :
    Json.Readable 100 j.args := by
  rcases reported_find? h with rfl | rfl <;> exact ⟨Nat.zero_le _,rfl⟩

theorem reported_results (n : Nat) :
    (reported n).queue.store.resultsFor dependent = some [(parent,nested n)] :=
  rfl

theorem reported_created (n : Nat) :
    (Server.handle .everyone (reported n) next wanted).1.status = 201 := by
  obtain ⟨q,hq⟩ := reported_request n
  rw [wanted_claimed hq]
  rfl

theorem reported_brought (n : Nat) : worker.call (worker.jobRequest ["build"] "x86")
    (loopback .everyone next) ⟨.epoch,.epoch⟩ (reported n) =
      (.ok (.ofReply (Server.handle .everyone (reported n) next wanted).1),worker,
        (Server.handle .everyone (reported n) next wanted).2) := by
  obtain ⟨q,hq⟩ := reported_request n
  have hfits : (worker.jobRequest ["build"] "x86").Fits := by
    unfold Unsent.Fits
    decide +kernel
  have hq' : (reported n).queue.request next.reading next.tokens ⟨["build"],"x86"⟩ = _ := hq
  rw [call_jobRequest (connected_on rfl next) (.anonymous rfl),perform_jobRequest hfits,hq',
    wanted_claimed hq]
  rfl

end Sample

open Sample Queue.Sample Services.Sample

/-- A result that leaves room for one level more than the report comes to the worker. -/
theorem delivered_iff_nested : ∃ claim h, (reported 124).Handed
      (Server.handle .everyone (reported 124) next wanted).2 claim ∧
    worker.requestJob ["build"] "x86" (loopback .everyone next) ⟨.epoch,.epoch⟩ (reported 124) =
      (.ok (some h),worker,(Server.handle .everyone (reported 124) next wanted).2) ∧
    Handle.Found claim h := by
  obtain ⟨claim,hhanded,hread,_⟩ := delivered_iff (reporting_reported 124)
    (reporting_after (by decide)) (fun _ _ => reported_modest) rfl wanted_path
    (reported_created 124) (reported_brought 124)
  have hshallow : claim.Shallow := by
    intro rs hrs
    obtain ⟨j,hj,_,_,hresults⟩ := hhanded.record
    rw [hresults] at hrs
    rcases reported_find? hj with rfl | rfl
    · cases hrs
    · rw [reported_results] at hrs
      cases hrs
      rintro _ hr
      rw [List.mem_singleton.mp hr]
      exact Nat.le_of_eq (nested_depth 124)
  obtain ⟨h,hread,hfound⟩ := hread.mpr hshallow
  exact ⟨claim,h,hhanded,hread,hfound⟩

/-- A result that is one level deeper is taken, and then the job that depends on it runs at a worker
that cannot read its claim. -/
theorem deep_result_lost : (∀ d ∈ reporting 125, d.Reported) ∧
    (Services.start .empty none ⟨none⟩).after .everyone (reporting 125) = reported 125 ∧
    (∀ id j, (reported 125).queue.store.find? id = some j → Json.Readable 100 j.args) ∧
    (Server.handle .everyone ((Services.start .empty none ⟨none⟩).after .everyone begun) (called 1)
      (nestedReport 125)).1.status = 200 ∧
    (Server.handle .everyone (reported 125) next wanted).1.status = 201 ∧
    (worker.requestJob ["build"] "x86" (loopback .everyone next) ⟨.epoch,.epoch⟩ (reported 125)).1 =
      .error .unreadable ∧
    (worker.requestJob ["build"] "x86" (loopback .everyone next) ⟨.epoch,.epoch⟩
      (reported 125)).2.2.queue.store.Running child := by
  refine ⟨reporting_reported 125,reporting_after (by decide),fun _ _ => reported_modest,?_,
    reported_created 125,?_⟩
  · rw [begun_after,nestedReport_replied (n := 125) (by decide)]
    rfl
  · obtain ⟨q,hq⟩ := reported_request 125
    have hbrought := reported_brought 125
    rw [wanted_claimed hq] at hbrought
    have hdistinct : ∀ rs, (handed 125).dynamicArgs = some rs → (rs.map Prod.fst).Nodup := by
      rintro _ ⟨⟩
      exact List.nodup_singleton parent
    have hs : (reported 125).Reported := by
      rw [← reporting_after (by decide)]
      exact (Services.Reported.start .empty none ⟨none⟩).after .everyone (reporting_reported 125)
    have hclaim := congrArg Prod.fst hq
    have hruns := (Queue.request_runs hs.regular hclaim).2
    have hreported : ∀ rs, (handed 125).dynamicArgs = some rs → ∀ r ∈ rs, Json.Readable 126 r.2 :=
      fun _ hrs => hs.results hclaim hrs
    rw [hq] at hruns
    rw [Worker.requestJob_answered hbrought]
    rcases readBody_shallow hdistinct ⟨Nat.zero_le _,rfl⟩ hreported with
      ⟨hshallow,_⟩ | ⟨_,hread⟩
    · have hdeep := hshallow _ rfl _ List.mem_cons_self
      rw [nested_depth] at hdeep
      exact absurd hdeep (by decide)
    · rw [hread]
      exact ⟨rfl,hruns⟩

end Client

end BuildFarm
