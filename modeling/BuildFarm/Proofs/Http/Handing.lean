import BuildFarm.Proofs.Http.Quiet
import BuildFarm.Proofs.Json.Yields
import BuildFarm.Proofs.Queue.Dependencies

namespace BuildFarm

/-- The result that a job is to be concluded with is as `P` says. -/
def Action.Results (P : Json → Prop) : Action → Prop
  | .conclude _ _ _ result => ∀ v, result = some v → P v
  | _ => True

/-- The result that a job was concluded with is as `P` says. -/
def Event.Results (P : Json → Prop) : Event → Prop
  | .concluded _ _ _ result _ => ∀ v, result = some v → P v
  | _ => True

namespace Queue

variable {P : Json → Prop} {q : Queue}

theorem Effect.results {p : Queue} (he : Effect q a es p) (ha : a.Results P) :
    ∀ e ∈ es, e.Results P := by
  intro e hm
  cases e with
  | concluded token job status result now =>
    cases he with
    | concluded =>
      cases List.mem_singleton.mp hm
      exact ha
    | _ => simp at hm
  | _ => trivial

theorem Told.onDisk (h : Told es q) (d : Disk) :
    Told es { q with store := { q.store with disk := d } } :=
  { h with }

/-- The job of a claim that is handed out runs under the token of the claim. -/
theorem request_runs (hq : Regular q) (h : (q.request r draws f).1 = .ok (some c)) :
    (q.request r draws f).2.tokens.live[c.token]? = some c.id ∧
      (q.request r draws f).2.store.Running c.id := by
  have he := (step_effect hq (.request r draws f)).2.2
  have hes : q.events (.request r draws f) = [.claimed c] := by simp [events,h]
  rw [hes] at he
  change Effect q _ _ (q.request r draws f).2 at he
  generalize (q.request r draws f).2 = p at he
  cases he with
  | claimed found _ _ issued sets =>
    exact ⟨(Registry.issue?_live hq.sound issued _ _).mpr (Or.inl ⟨rfl,rfl⟩),_,sets.self,rfl⟩

end Queue

namespace Http

/-- A report is one level around its result. -/
theorem Report.result_readable :
    Json.Reader.Yields (Json.Reader.record Report.shape Json.maxLevels)
      (fun report => ∀ v, report.result = some v → Json.Readable 126 v) := by
  refine Json.Reader.record_yields
    (I := fun d => ∀ o, d.result = some o → ∀ v, o = some v → Json.Readable 126 v) ?_ nofun ?_
  · intro f hf
    rcases List.mem_cons.mp hf with rfl | hf
    · exact Json.Reader.optional_field_yields (P := fun _ => True) (fun _ _ _ _ => trivial) trivial
        (fun _ _ hd _ => hd)
    · obtain rfl := List.mem_singleton.mp hf
      refine Json.Reader.optional_field_yields
        (Json.Reader.optional_yields (Json.Reader.value_readable 126)) nofun ?_
      rintro _ o _ ho _ ⟨⟩
      exact ho
  · intro d a hd hf
    obtain ⟨status,hs,hf⟩ := Option.bind_eq_some_iff.mp hf
    obtain ⟨result,hr,hf⟩ := Option.bind_eq_some_iff.mp hf
    cases hf
    exact hd result hr

theorem Report.decoded_readable {bytes : Bytes} (h : decodeBody Report.shape bytes = .ok report) :
    ∀ v, report.result = some v → Json.Readable 126 v := by
  unfold decodeBody at h
  split at h
  · cases h
  · split at h
    · cases h
      exact Report.result_readable.parse ‹_›
    · cases h

theorem Server.Served.results {a : BuildFarm.Action} (h : Server.Served a) :
    a.Results (Json.Readable 126) := by
  cases a with
  | conclude r token status result =>
    obtain ⟨bytes,hd⟩ := h
    exact Report.decoded_readable hd
  | _ => trivial

end Http

namespace Services

/-- A result comes in with a request, and with no call. -/
def Deed.Reported : Deed → Prop
  | .call (.conclude _ _ _ result) => result = none
  | _ => True

/-- All results that jobs were concluded with have had room in a report. -/
structure Reported (s : Services) : Prop where
  regular : s.queue.Regular
  told : ∃ es, Queue.Told es s.queue ∧ ∀ e ∈ es, e.Results (Json.Readable 126)

namespace Reported

variable {s t : Services}

theorem start (disk : Disk) (root : Option Path) (artifacts : Artifacts) :
    Reported (start disk root artifacts) :=
  ⟨Queue.start_regular disk root,[],Queue.told_start disk root,nofun⟩

theorem withDisk (h : Reported s) (d : Disk) : Reported (s.withDisk d) := by
  obtain ⟨es,ht,he⟩ := h.told
  exact ⟨h.regular.onDisk d,es,ht.onDisk d,he⟩

theorem call (h : Reported s) {a : Action} (ha : a.Results (Json.Readable 126)) :
    Reported (s.call a) := by
  obtain ⟨es,ht,hes⟩ := h.told
  have he := (Queue.step_effect h.regular a).2.2
  refine ⟨Queue.step_regular h.regular a,es ++ s.queue.events a,he.told ht,?_⟩
  exact List.forall_mem_append.mpr ⟨hes,he.results ha⟩

theorem handled (h : Reported s) (ht : Http.Server.Handled s t) : Reported t := by
  cases ht with
  | disk d => exact h.withDisk d
  | call d a served => exact (h.withDisk d).call served.results

theorem does (h : Reported s) (access : Http.Access) {d : Deed} (hd : d.Reported) :
    Reported (s.does access d) := by
  cases d with
  | call a =>
    refine h.call ?_
    cases a with
    | conclude r token status result =>
      cases hd
      exact nofun
    | _ => trivial
  | request o r => exact h.handled (Http.Server.handle_handled access s o r)

theorem after (h : Reported s) (access : Http.Access) {run : List Deed}
    (hr : ∀ d ∈ run, d.Reported) : Reported (s.after access run) :=
  after_kept (fun _ d hd ht => ht.does access (hr d hd)) h

/-- What a dependent job is told was a result of a report, or it stands for none. -/
theorem results (h : Reported s) (hc : (s.queue.request r draws f).1 = .ok (some c))
    {rs : List (JobId × Json)} (hrs : c.dynamicArgs = some rs) :
    ∀ e ∈ rs, Json.Readable 126 e.2 := by
  rintro ⟨d,value⟩ he
  obtain ⟨es,ht,hes⟩ := h.told
  obtain ⟨old,hold,_⟩ := Queue.request_ok h.regular hc
  obtain ⟨type,args,ds,hm⟩ := ht.origin hold
  obtain ⟨token,result,now,hm,rfl⟩ := (ht.fed h.regular hc hm).2.2.values rs hrs d value he
  cases result with
  | none => exact ⟨Nat.zero_le _,rfl⟩
  | some v => exact hes _ hm v rfl

end Reported

/-- A job was handed out: the claim is made of its record and of the results of its dependencies,
and the job runs under the token of the claim. -/
structure Handed (s t : Services) (c : Claim) : Prop where
  record : ∃ j, s.queue.store.find? c.id = some j ∧ c.type = j.type ∧ c.args = j.args ∧
    c.dynamicArgs = s.queue.store.resultsFor j
  live : t.queue.tokens.live[c.token]? = some c.id
  running : t.queue.store.Running c.id

end Services

namespace Http.Server

variable {s : Services} {o : Occasion}

theorem takeBody_failed {body : Body} {t : Services} (h : takeBody s body = (.error reply,t)) :
    reply.status ≠ 201 := by
  unfold takeBody at h
  split at h
  · cases h
  · rename_i fault _ _
    cases h
    cases fault <;> simp [bodyFault]

theorem queueFault_status (e : QueueError) : (queueFault e).status ≠ 201 := by
  cases e <;> simp [queueFault]

/-- Nothing is created but a claim. -/
theorem requestJob_created {body : Body} (h : (requestJob s o body).1.status = 201) :
    ∃ wanted claim q, (takeBody s body).2.queue.request o.reading o.tokens wanted =
        (.ok (some claim),q) ∧
      requestJob s o body =
        (.json 201 (claimJson claim),{ (takeBody s body).2 with queue := q }) := by
  unfold requestJob at h ⊢
  cases hb : takeBody s body with
  | mk taken t =>
    rw [hb] at h
    cases taken with
    | error reply => exact absurd h (takeBody_failed hb)
    | ok bytes =>
      dsimp only at h ⊢
      cases hd : decodeBody JobWanted.shape bytes with
      | error reply =>
        rw [hd] at h
        cases (decodeBody_refused hd).symm.trans h
      | ok wanted =>
        rw [hd] at h
        dsimp only at h ⊢
        cases hq : t.queue.request o.reading o.tokens wanted.filter with
        | mk answer q =>
          rw [hq] at h
          rcases answer with e | _ | claim
          · exact absurd h (queueFault_status e)
          · cases h
          · exact ⟨wanted.filter,claim,q,hq,rfl⟩

/-- A reply that says that something was created tells of a claim that the queue gave. -/
theorem handle_created {a : Access} {r : Request} (method : r.method = "POST")
    (path : Endpoint.ofPath? r.path = some .jobs) (h : (handle a s o r).1.status = 201) :
    ∃ d wanted claim, ((s.withDisk d).queue.request o.reading o.tokens wanted).1 =
        .ok (some claim) ∧
      (handle a s o r).1 = (Reply.json 201 (claimJson claim)).sized ∧
      (handle a s o r).2.queue = ((s.withDisk d).queue.request o.reading o.tokens wanted).2 := by
  have haction : Endpoint.jobs.action? r.method = some .requestJob := by
    rw [method]
    rfl
  have hhead : r.method ≠ "HEAD" := by
    rw [method]
    decide
  simp only [handle,path,haction,if_neg hhead] at h ⊢
  split at h
  · rename_i hadmits
    rw [if_pos hadmits]
    obtain ⟨wanted,claim,q,hq,hr⟩ := requestJob_created h
    obtain ⟨d,hd⟩ := takeBody_handled s r.body
    rw [hd] at hq hr
    refine ⟨d,wanted,claim,congrArg Prod.fst hq,?_,?_⟩
    · rw [perform,hr]
    · rw [perform,hr,hq]
  · cases h

/-- What is handed out was made of the records, and its job runs from then on. -/
theorem handle_handed {a : Access} {r : Request} (hs : s.Reported) (method : r.method = "POST")
    (path : Endpoint.ofPath? r.path = some .jobs) (h : (handle a s o r).1.status = 201) :
    ∃ claim, s.Handed (handle a s o r).2 claim ∧
      (handle a s o r).1 = (Reply.json 201 (claimJson claim)).sized ∧
      ∀ rs, claim.dynamicArgs = some rs →
        (rs.map Prod.fst).Nodup ∧ ∀ e ∈ rs, Json.Readable 126 e.2 := by
  obtain ⟨d,wanted,claim,hq,hreply,hafter⟩ := handle_created method path h
  have hd := hs.withDisk d
  obtain ⟨j,hj,_,htype,hargs,hresults⟩ := Queue.request_ok hd.regular hq
  obtain ⟨hlive,hrunning⟩ := Queue.request_runs hd.regular hq
  rw [← hafter] at hlive hrunning
  exact ⟨claim,⟨⟨j,hj,htype,hargs,hresults⟩,hlive,hrunning⟩,hreply,
    fun rs hrs => ⟨Queue.request_nodup hq hrs,hd.results hq hrs⟩⟩

end Http.Server

end BuildFarm
