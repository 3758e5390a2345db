import BuildFarm.Proofs.Http.Gate

namespace BuildFarm

namespace Http

namespace Server

/-- What the reply to a rejected request shows of its path. -/
inductive Trace
  | nothing
  | methods (allowed : String)
  /-- There is something that GET would show. -/
  | cutOff
deriving DecidableEq

/-- The generic answer with its trace. -/
def Trace.reply : Trace → Reply
  | nothing => notFound.sized
  | methods allowed => notFound.sized.allowing allowed
  | cutOff => notFound.sized.headOnly

def trace (r : Request) : Trace :=
  match Endpoint.ofPath? r.path with
  | none => .nothing
  | some e =>
    if (e.action? r.method).isNone then .methods e.allowed
    else if r.method = "HEAD" then .cutOff
    else .nothing

/-- No trace is left where the path is not there, or has the method and that is not HEAD. -/
theorem trace_nothing {r : Request} : trace r = .nothing ↔
    ∀ e, Endpoint.ofPath? r.path = some e → (e.action? r.method).isSome ∧ r.method ≠ "HEAD" := by
  unfold trace
  cases Endpoint.ofPath? r.path with
  | none => simp
  | some e => cases ha : e.action? r.method <;> simp [ha]

theorem notFound_body : notFound.body ≠ "" := by
  decide

theorem Trace.reply_injective {t u : Trace} (h : t.reply = u.reply) : t = u := by
  cases t <;> cases u <;>
    simp_all [Trace.reply,Reply.allowing,Reply.headOnly,Reply.sized,notFound_body,
      notFound_body.symm]

theorem reply_rejected {a : Access} {o : Occasion} {r : Request}
    (h : a.admits o.reading.now r = false) (s : Services) :
    (handle a s o r).1 = (trace r).reply := by
  unfold handle trace
  cases Endpoint.ofPath? r.path with
  | none => rfl
  | some e =>
    dsimp only
    cases e.action? r.method with
    | none => simp [h,Trace.reply]
    | some action => by_cases hm : r.method = "HEAD" <;> simp [h,hm,Trace.reply]

/-- Where there is nothing, everyone is told the same. -/
theorem reply_missing {r : Request} (h : Endpoint.ofPath? r.path = none) (a : Access)
    (s : Services) (o : Occasion) : (handle a s o r).1 = Trace.nothing.reply := by
  simp [handle,h,Trace.reply]

/-- Two rejected requests get the same reply exactly if they leave the same trace, and a rejected
request gets the reply of a path that is not there exactly if it leaves none. -/
theorem rejections_alike_iff {accounts : List String} {secret : Option Bytes} {o o' : Occasion}
    {r r' : Request} (hr : ¬Access.Admitted accounts secret o.reading.now r)
    (hr' : ¬Access.Admitted accounts secret o'.reading.now r') (s s' : Services) :
    ((handle ⟨.ofAccounts accounts,secret⟩ s o r).1 =
      (handle ⟨.ofAccounts accounts,secret⟩ s' o' r').1 ↔ trace r = trace r') ∧
    ∀ (s₀ : Services) (o₀ : Occasion) (known : Request),
      Access.Admitted accounts secret o₀.reading.now known → known.method = r.method →
      Endpoint.ofPath? known.path = none →
      ((handle ⟨.ofAccounts accounts,secret⟩ s o r).1 =
        (handle ⟨.ofAccounts accounts,secret⟩ s₀ o₀ known).1 ↔
        ∀ e, Endpoint.ofPath? r.path = some e →
          (e.action? r.method).isSome ∧ r.method ≠ "HEAD") := by
  rw [← Access.admits_iff,Bool.not_eq_true] at hr hr'
  rw [reply_rejected hr s,reply_rejected hr' s']
  refine ⟨⟨Trace.reply_injective,congrArg Trace.reply⟩,?_⟩
  intro s₀ o₀ known _ _ hp
  rw [reply_missing hp,← trace_nothing]
  exact ⟨Trace.reply_injective,congrArg Trace.reply⟩

namespace Sample

/-- A request for the status of the server, by someone who says nothing either. -/
def stranger (method : String) : Request := ⟨method,"/api/worker/v1/status",[],.empty⟩

theorem stranger_rejected (method : String) :
    ¬Access.Admitted ["a"] none moment.reading.now (stranger method) :=
  Access.not_admitted_bare rfl (a := "a") List.mem_cons_self (by decide) none _

/-- A request for a path that is not there, with the assertion of the account `a`. -/
def member (method : String) : Request :=
  ⟨method,"/nope",
    [("x-rh-identity",Bytes.ofText "eyJpZGVudGl0eSI6eyJhY2NvdW50X251bWJlciI6ImEifX0=")],.empty⟩

theorem member_admitted (method : String) :
    Access.Admitted ["a"] none moment.reading.now (member method) :=
  .assertion (i := ⟨"a",none,none,[]⟩) ⟨[],_,[],rfl,by decide +kernel,nofun⟩
    (Request.visible_iff.mp (by decide +kernel)) (by decide +kernel)
    ⟨List.mem_cons_self,by decide⟩

theorem path_stranger (method : String) :
    Endpoint.ofPath? (stranger method).path = some .status := by
  have hp : (stranger method).path = (stranger "GET").path := rfl
  rw [hp]
  decide

theorem path_nobody (method : String) : Endpoint.ofPath? (nobody method).path = none := by
  have hp : (nobody method).path = (nobody "GET").path := rfl
  rw [hp]
  decide

theorem path_member (method : String) : Endpoint.ofPath? (member method).path = none :=
  path_nobody method

end Sample

/-- GET is refused in the same way for the status and for a path that is not there. -/
theorem rejections_alike_get :
    (handle ⟨.ofAccounts ["a"],none⟩ Sample.vacant Sample.moment (Sample.stranger "GET")).1 =
      (handle ⟨.ofAccounts ["a"],none⟩ Sample.vacant Sample.moment (Sample.nobody "GET")).1 ∧
    (handle ⟨.ofAccounts ["a"],none⟩ Sample.vacant Sample.moment (Sample.stranger "GET")).1 =
      (handle ⟨.ofAccounts ["a"],none⟩ Sample.vacant Sample.moment (Sample.member "GET")).1 := by
  obtain ⟨htwo,hmissing⟩ := rejections_alike_iff (Sample.stranger_rejected "GET")
    (Sample.not_admitted "GET") Sample.vacant Sample.vacant
  refine ⟨htwo.mpr ?_,?_⟩
  · simp only [trace,Sample.path_stranger,Sample.path_nobody]
    rfl
  · apply (hmissing Sample.vacant Sample.moment (Sample.member "GET") (Sample.member_admitted "GET")
      rfl (Sample.path_member "GET")).mpr
    intro e he
    rw [Sample.path_stranger] at he
    cases he
    decide

/-- POST is refused with the methods of the path where there is one. -/
theorem refused_post_with_methods :
    ¬Access.Admitted ["a"] none Sample.moment.reading.now (Sample.stranger "POST") ∧
    ¬Access.Admitted ["a"] none Sample.moment.reading.now (Sample.nobody "POST") ∧
    (handle ⟨.ofAccounts ["a"],none⟩ Sample.vacant Sample.moment (Sample.stranger "POST")).1 ≠
      (handle ⟨.ofAccounts ["a"],none⟩ Sample.vacant Sample.moment (Sample.nobody "POST")).1 := by
  refine ⟨Sample.stranger_rejected "POST",Sample.not_admitted "POST",?_⟩
  intro h
  have hs : Access.admits ⟨.ofAccounts ["a"],none⟩ Sample.moment.reading.now
      (Sample.stranger "POST") = false := by
    rw [← Bool.not_eq_true,Access.admits_iff]
    exact Sample.stranger_rejected "POST"
  rw [reply_rejected hs,reply_missing (Sample.path_nobody "POST")] at h
  have ht := Trace.reply_injective h
  rw [trace,Sample.path_stranger] at ht
  exact absurd ht (by decide)

end Server

end Http

end BuildFarm
