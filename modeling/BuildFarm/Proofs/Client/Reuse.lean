import BuildFarm.Client.Worker
import BuildFarm.Proofs.Auth.Freshness
import BuildFarm.Proofs.Ident

namespace BuildFarm.Client

/-- Keeps a list of what is sent beside the state of what carries it. -/
def Transport.logged (t : Transport σ) : Transport (σ × List Sent) := fun sent w =>
  ((t sent w.1).1,((t sent w.1).2,w.2 ++ [sent]))

/-- What sending a request once amounts to: nothing, if it cannot be sent. -/
def Unsent.posted (r : Unsent) : List Sent :=
  r.sent?.toOption.toList

theorem send_logged (r : Unsent) (t : Transport σ) (w : σ) (log : List Sent) :
    r.send t.logged (w,log) = ((r.send t w).1,((r.send t w).2,log ++ r.posted)) := by
  simp only [Unsent.send,Unsent.posted]
  cases hs : r.sent? with
  | error f => simp [Except.toOption]
  | ok sent =>
    simp only [Transport.logged,Except.toOption]
    cases t sent w with
    | mk a w => cases a <;> rfl

/-- The clock shows instants that there are, away from leap seconds. -/
structure Moment.Ordinary (m : Moment) : Prop where
  asked : m.asked.Ordinary
  sent : m.sent.Ordinary

/-- An exchange that brought a token: when it was sent and what was granted. -/
structure Exchanged where
  issued : Instant
  grant : Grant
deriving DecidableEq

/-- More than ten seconds are left of what was granted. -/
def Exchanged.Lasts (e : Exchanged) (now : Instant) : Prop :=
  now.exact < e.issued.exact + (max e.grant.expiresIn 0 - 10) * nanosPerSecond

instance (e : Exchanged) (now : Instant) : Decidable (e.Lasts now) :=
  inferInstanceAs (Decidable (_ < _))

namespace Credential

/-- What an exchange brings if it is answered well, by a grant that lasts up to some instant. -/
def granted? (c : Credential) (t : Transport σ) (issued : Instant) (w : σ) : Option Exchanged := do
  let a ← (c.request.send t w).1.toOption
  guard a.isSuccess
  let g ← (Json.parse Grant.read (Glyph.ofBytes a.body)).toOption
  let _ ← AccessToken.ofExpiresIn? g.token issued g.expiresIn
  return ⟨issued,g⟩

/-- An exchange brings a token, or it fails. -/
inductive Brings (issued : Instant) : Option Exchanged → Except ExchangeFault AccessToken → Prop
  | granted (made : AccessToken.ofExpiresIn? g.token issued g.expiresIn = some token) :
      Brings issued (some ⟨issued,g⟩) (.ok token)
  | failed (f : ExchangeFault) : Brings issued none (.error f)

theorem exchange_brings (c : Credential) (t : Transport σ) (issued : Instant) (w : σ) :
    Brings issued (c.granted? t issued w) (c.exchange t issued w).1 := by
  simp only [granted?,exchange]
  cases c.request.send t w with
  | mk r w =>
    cases r with
    | error f => exact .failed _
    | ok a =>
      simp only [accept,Except.toOption,bind,Option.bind]
      cases a.isSuccess with
      | false => exact .failed _
      | true =>
        cases Json.parse Grant.read (Glyph.ofBytes a.body) with
        | error f => exact .failed _
        | ok g =>
          dsimp
          cases hk : AccessToken.ofExpiresIn? g.token issued g.expiresIn with
          | none => exact .failed _
          | some token => exact .granted hk

theorem exchange_logged (c : Credential) (t : Transport σ) (issued : Instant) (w : σ)
    (log : List Sent) : c.exchange t.logged issued (w,log) =
      ((c.exchange t issued w).1,((c.exchange t issued w).2,log ++ c.request.posted)) := by
  simp only [exchange,send_logged]
  cases c.request.send t w with
  | mk r w => cases r <;> rfl

end Credential

namespace TokenSource

/-- Nothing is cached, or it is not fresh. -/
def Wants (s : TokenSource) (now : Instant) : Prop :=
  ∀ k, s.cached = some k → k.isFresh now = false

theorem fresh?_none {s : TokenSource} {now : Instant} : s.fresh? now = none ↔ s.Wants now := by
  simp [fresh?,Wants,Option.filter_eq_none_iff]

theorem fresh?_some {s : TokenSource} {now : Instant} (h : s.fresh? now = some k) :
    s.cached = some k ∧ k.isFresh now = true :=
  Option.filter_eq_some_iff.mp h

/-- What the exchange of a call brings, if there is one and it does not fail. -/
def exchanged? (s : TokenSource) (t : Transport σ) (m : Moment) (w : σ) : Option Exchanged :=
  match s.fresh? m.asked with
  | some _ => none
  | none => s.credential.granted? t m.sent w

/-- All that a call for a token comes to. -/
inductive Call (s : TokenSource) (m : Moment) :
    Option Exchanged → Except ExchangeFault String → TokenSource → Prop
  | reused (cached : s.cached = some k) (fresh : k.isFresh m.asked = true) :
      Call s m none (.ok k.value) s
  | renewed (wants : s.Wants m.asked)
      (made : AccessToken.ofExpiresIn? g.token m.sent g.expiresIn = some k) :
      Call s m (some ⟨m.sent,g⟩) (.ok k.value) { s with cached := some k }
  | failed (wants : s.Wants m.asked) (f : ExchangeFault) : Call s m none (.error f) s

theorem Call.value {s p : TokenSource} {m : Moment} (h : Call s m gained (.ok v) p) :
    (∃ k, s.cached = some k ∧ k.isFresh m.asked = true ∧ v = k.value) ∨
    s.Wants m.asked ∧ ∃ g k, gained = some ⟨m.sent,g⟩ ∧
      AccessToken.ofExpiresIn? g.token m.sent g.expiresIn = some k ∧ v = k.value := by
  cases h with
  | reused cached fresh => exact Or.inl ⟨_,cached,fresh,rfl⟩
  | renewed wants made => exact Or.inr ⟨wants,_,_,rfl,made,rfl⟩

theorem Call.error {s p : TokenSource} {m : Moment} (h : Call s m gained (.error f) p) :
    s.Wants m.asked ∧ gained = none ∧ p = s := by
  cases h with
  | failed wants f => exact ⟨wants,rfl,rfl⟩

/-- Where a token is wanted and none is gained, there is none to hand out. -/
theorem Call.fails {s p : TokenSource} {m : Moment} (h : Call s m none r p)
    (wants : s.Wants m.asked) : ∃ f, r = .error f := by
  cases h with
  | reused cached fresh =>
    rw [wants _ cached] at fresh
    cases fresh
  | failed _ f => exact ⟨f,rfl⟩

theorem token_call (s : TokenSource) (t : Transport σ) (m : Moment) (w : σ) :
    Call s m (s.exchanged? t m w) (s.token t m w).1 (s.token t m w).2.1 := by
  simp only [exchanged?,TokenSource.token]
  cases hf : s.fresh? m.asked with
  | some k =>
    obtain ⟨hc,hk⟩ := fresh?_some hf
    exact .reused hc hk
  | none =>
    have ho := s.credential.exchange_brings t m.sent w
    generalize s.credential.granted? t m.sent w = gained at ho
    cases he : s.credential.exchange t m.sent w with
    | mk r w' =>
      rw [he] at ho
      cases ho with
      | granted made => exact .renewed (fresh?_none.mp hf) made
      | failed f => exact .failed (fresh?_none.mp hf) f

/-- A request is sent exactly where a token is wanted: the exchange, and nothing else. -/
theorem token_logged (s : TokenSource) (t : Transport σ) (m : Moment) (w : σ) (log : List Sent) :
    (s.token t.logged m (w,log)).1 = (s.token t m w).1 ∧
    (s.token t.logged m (w,log)).2.1 = (s.token t m w).2.1 ∧
    (s.Wants m.asked → (s.token t.logged m (w,log)).2.2.2 = log ++ s.credential.request.posted) ∧
    (¬s.Wants m.asked → (s.token t.logged m (w,log)).2.2.2 = log) := by
  rw [← fresh?_none]
  simp only [TokenSource.token]
  cases hf : s.fresh? m.asked with
  | some k => simp
  | none =>
    rw [Credential.exchange_logged]
    cases s.credential.exchange t m.sent w with
    | mk r w => cases r <;> simp

/-- A source of tokens after calls, each with what the clock shows and what the world is like. -/
def after (s : TokenSource) (t : Transport σ) : List (Moment × σ) → TokenSource
  | [] => s
  | (m,w) :: calls => (s.token t m w).2.1.after t calls

/-- The exchanges among these calls that brought a token. -/
def exchanges (s : TokenSource) (t : Transport σ) : List (Moment × σ) → List Exchanged
  | [] => []
  | (m,w) :: calls => (s.exchanged? t m w).toList ++ (s.token t m w).2.1.exchanges t calls

/-- A token beside the exchange that has brought it, if there is one. -/
inductive Held : Option Exchanged → Option AccessToken → Prop
  | nothing : Held none none
  | granted (issued : e.issued.Ordinary)
      (made : AccessToken.ofExpiresIn? e.grant.token e.issued e.grant.expiresIn = some k) :
      Held (some e) (some k)

/-- What is cached is what the last of these exchanges has brought. -/
structure Caches (c : Credential) (es : List Exchanged) (s : TokenSource) : Prop where
  credential : s.credential = c
  held : Held es.getLast? s.cached

theorem Caches.cached {s : TokenSource} (h : Caches c es s) (hk : s.cached = some k) :
    ∃ e, es.getLast? = some e ∧ e.issued.Ordinary ∧
      AccessToken.ofExpiresIn? e.grant.token e.issued e.grant.expiresIn = some k := by
  have hheld := h.held
  rw [hk] at hheld
  generalize es.getLast? = last at hheld ⊢
  cases hheld with
  | granted issued made => exact ⟨_,rfl,issued,made⟩

/-- A token is wanted unless the last exchange has brought one that lasts. -/
theorem Caches.wants_iff {s : TokenSource} {now : Instant} (h : Caches c es s)
    (hn : now.Ordinary) : s.Wants now ↔ ∀ e, es.getLast? = some e → ¬e.Lasts now := by
  have hheld := h.held
  unfold Wants
  generalize es.getLast? = last at hheld ⊢
  generalize s.cached = cached at hheld ⊢
  cases hheld with
  | nothing => simp
  | @granted k e issued made =>
    have fresh : k.isFresh now = true ↔ e.Lasts now := AccessToken.isFresh_iff issued hn made
    simp [← fresh]

theorem Call.caches {s p : TokenSource} {m : Moment} (hc : Call s m gained r p)
    (h : Caches c es s) (hm : m.Ordinary) : Caches c (es ++ gained.toList) p := by
  cases hc with
  | reused cached fresh => simpa using h
  | renewed wants made =>
    refine ⟨h.credential,?_⟩
    rw [Option.toList_some,List.getLast?_concat]
    exact .granted hm.sent made
  | failed wants f => simpa using h

theorem after_caches {s : TokenSource} {t : Transport σ} {calls : List (Moment × σ)}
    (h : Caches c es s) (calm : ∀ x ∈ calls, x.1.Ordinary) :
    Caches c (es ++ s.exchanges t calls) (s.after t calls) := by
  induction calls generalizing es s with
  | nil => simpa [exchanges,after] using h
  | cons x calls ih =>
    obtain ⟨m,w⟩ := x
    rw [List.forall_mem_cons] at calm
    have hnext := ih ((s.token_call t m w).caches h calm.1) calm.2
    rwa [List.append_assoc] at hnext

end TokenSource

namespace Worker

/-- The calls that a worker can make. -/
inductive Errand
  | status
  | job (kinds : List String) (arch : String)
  | canceled (h : Handle)
  | report (h : Handle) (ended : Option Outcome) (result : Option Json)
  | upload (h : Handle) (name : ArtifactName) (content : Body)

/-- Whether a call was answered well, whatever else it was told. -/
def bare (r : Except ClientError α × Worker × σ) : Except ClientError Unit × Worker × σ :=
  (r.1.map (fun _ => ()),r.2)

def run (k : Worker) (t : Transport σ) (m : Moment) (w : σ) :
    Errand → Except ClientError Unit × Worker × σ
  | .status => bare (k.status t m w)
  | .job kinds arch => bare (k.requestJob kinds arch t m w)
  | .canceled h => bare (k.canceled h t m w)
  | .report h ended result => bare (k.report h ended result t m w)
  | .upload h name content => bare (k.upload h name.text content t m w)

/-- The request that a call makes at the server. -/
def Errand.request (k : Worker) : Errand → Unsent
  | .status => k.statusRequest
  | .job kinds arch => k.jobRequest kinds arch
  | .canceled h => k.canceledRequest h
  | .report h ended result => k.reportRequest h ended result
  | .upload h name content => k.uploadRequest h name content

/-- A call comes to nothing else where its request is not answered well. -/
theorem run_failed {k : Worker} {errand : Errand} {t : Transport σ} {m : Moment} {w : σ}
    (h : k.call (errand.request k) t m w = (.error f,x)) : k.run t m w errand = (.error f,x) := by
  cases errand with
  | upload handle name content =>
    simp only [Errand.request] at h
    simp [run,upload,ArtifactName.parse_text,bare,reading,h,Except.bind,Except.map]
  | _ =>
    simp only [Errand.request] at h
    simp [run,status,requestJob,canceled,report,bare,reading,h,Except.bind,Except.map]

/-- Without a token nothing is sent to the server. -/
theorem call_untokened {k : Worker} {t : Transport σ} {m : Moment} {w : σ} (r : Unsent)
    (needs : k.tokens = some s) (h : s.token t m w = (.error f,s,x)) :
    k.call r t m w = (.error (.tokenExchange f),k,x) := by
  have hk : { k with tokens := some s } = k := by
    rw [← needs]
  rw [call,needs]
  simp only [h,hk]

end Worker

open TokenSource

/-- A token is asked for exactly when there is none that is fresh, and then once: when no exchange
has succeeded yet, or what the last one brought has at most ten seconds left. What is handed out was
granted in this call, or by the last exchange that succeeded. An exchange that fails changes
nothing, and nothing is sent to the server. -/
theorem tokens_reused_fresh (c : Credential) (t : Transport σ) (past : List (Moment × σ))
    (calm : ∀ x ∈ past, x.1.Ordinary) (m : Moment) (now : m.Ordinary) (w : σ) (log : List Sent) :
    let s := (ofCredential c).after t past
    let es := (ofCredential c).exchanges t past
    let call := s.token t.logged m (w,log)
    (s.Wants m.asked ↔ ∀ e, es.getLast? = some e → ¬e.Lasts m.asked) ∧
    (s.Wants m.asked → call.2.2.2 = log ++ c.request.posted) ∧
    (¬s.Wants m.asked → call.2.2.2 = log) ∧
    (∀ v, call.1 = .ok v →
      (s.Wants m.asked ∧ ∃ e, c.granted? t m.sent w = some e ∧ v = e.grant.token) ∨
      (¬s.Wants m.asked ∧ ∃ e, es.getLast? = some e ∧ v = e.grant.token ∧ e.Lasts m.asked)) ∧
    (s.Wants m.asked → c.granted? t m.sent w = none → ∃ f, call.1 = .error f) ∧
    ∀ f, call.1 = .error f → s.Wants m.asked ∧ c.granted? t m.sent w = none ∧ call.2.1 = s ∧
      ∀ (k : Worker) errand, k.tokens = some s → k.run t.logged m (w,log) errand =
        (.error (.tokenExchange f),k,(call.2.2.1,log ++ c.request.posted)) := by
  intro s es call
  have hnew : Caches c [] (ofCredential c) := ⟨rfl,.nothing⟩
  have hs : Caches c es s := after_caches hnew calm
  obtain ⟨hanswer,hsource,hasks,hnot⟩ := s.token_logged t m w log
  rw [hs.credential] at hasks
  have hcall : Call s m (s.exchanged? t m w) call.1 call.2.1 := by
    rw [hanswer,hsource]
    exact s.token_call t m w
  have hgained (wants : s.Wants m.asked) : s.exchanged? t m w = c.granted? t m.sent w := by
    rw [exchanged?,fresh?_none.mpr wants,hs.credential]
  refine ⟨hs.wants_iff now.asked,hasks,hnot,?_,?_,?_⟩
  · intro v hv
    rw [hv] at hcall
    rcases hcall.value with ⟨k,cached,fresh,rfl⟩ | ⟨wants,g,k,hg,made,rfl⟩
    · obtain ⟨e,he,hissued,hmade⟩ := hs.cached cached
      have lasts : e.Lasts m.asked := (AccessToken.isFresh_iff hissued now.asked hmade).mp fresh
      refine Or.inr ⟨fun wants => (hs.wants_iff now.asked).mp wants e he lasts,e,he,?_,lasts⟩
      rw [(AccessToken.ofExpiresIn?_some hissued hmade).1,AccessToken.lasting]
    · refine Or.inl ⟨wants,_,(hgained wants).symm.trans hg,?_⟩
      rw [(AccessToken.ofExpiresIn?_some now.sent made).1,AccessToken.lasting]
  · intro wants hnone
    rw [hgained wants,hnone] at hcall
    exact hcall.fails wants
  · intro f hf
    rw [hf] at hcall
    obtain ⟨wants,hnone,hsame⟩ := hcall.error
    refine ⟨wants,(hgained wants).symm.trans hnone,hsame,?_⟩
    intro k errand needs
    apply Worker.run_failed
    apply Worker.call_untokened _ needs
    rw [← hasks wants]
    exact Prod.ext hf (Prod.ext hsame rfl)

namespace Sample

def login : Credential := ⟨"http://[::1]/token","refresh","rhsm-api"⟩

/-- An endpoint that answers once. -/
def issuer : Transport Nat := fun _ n =>
  (if n = 0 then
    some ⟨200,none,Bytes.ofText "\x7b\"access_token\":\"key\",\"expires_in\":900\x7d"⟩
  else none,n + 1)

/-- So many seconds later. -/
def past (n : Nat) : Moment := ⟨⟨n,0⟩,⟨n,0⟩⟩

def first : List (Moment × Nat) := [(past 0,0)]

/-- What the first call has brought. -/
def key : Exchanged := ⟨.epoch,⟨"key",900⟩⟩

theorem past_ordinary :
    (past 0).Ordinary ∧ (past 889).Ordinary ∧ (past 890).Ordinary :=
  ⟨⟨⟨by decide,by decide⟩,⟨by decide,by decide⟩⟩,⟨⟨by decide,by decide⟩,⟨by decide,by decide⟩⟩,
    ⟨⟨by decide,by decide⟩,⟨by decide,by decide⟩⟩⟩

theorem first_ordinary (x : Moment × Nat) (hx : x ∈ first) : x.1.Ordinary := by
  rw [List.mem_singleton.mp hx]
  exact past_ordinary.1

theorem first_exchanges : ((ofCredential login).exchanges issuer first).getLast? = some key := by
  decide +kernel

theorem key_unanswered : login.granted? issuer (past 890).sent 1 = none := by
  decide +kernel

end Sample

open Sample in
/-- While it lasts the token is used again, and nothing is sent. Ten seconds before its end it is no
longer used; and there is no other. -/
theorem tokens_reused_fresh_issued :
    (∀ x ∈ first, x.1.Ordinary) ∧ (past 889).Ordinary ∧ (past 890).Ordinary ∧
    (((ofCredential login).after issuer first).token issuer.logged (past 889) (1,[])).1 =
      .ok "key" ∧
    (((ofCredential login).after issuer first).token issuer.logged (past 889) (1,[])).2.2.2 = [] ∧
    ∃ f, ∀ (k : Worker) errand, k.tokens = some ((ofCredential login).after issuer first) →
      (k.run issuer.logged (past 890) (1,[]) errand).1 = .error (.tokenExchange f) ∧
      (k.run issuer.logged (past 890) (1,[]) errand).2.2.2 = login.request.posted := by
  refine ⟨first_ordinary,past_ordinary.2.1,past_ordinary.2.2,?_⟩
  obtain ⟨hlasts,_,hkept,hvalue,_,hfault⟩ :=
    tokens_reused_fresh login issuer first first_ordinary (past 889) past_ordinary.2.1 1 []
  obtain ⟨hended,_,_,_,hfails,herror⟩ :=
    tokens_reused_fresh login issuer first first_ordinary (past 890) past_ordinary.2.2 1 []
  have reused : ¬((ofCredential login).after issuer first).Wants (past 889).asked :=
    fun wants => hlasts.mp wants key first_exchanges (by decide : key.Lasts (past 889).asked)
  have wants : ((ofCredential login).after issuer first).Wants (past 890).asked := by
    refine hended.mpr fun e he => ?_
    obtain rfl : key = e := Option.some.inj (first_exchanges.symm.trans he)
    decide
  refine ⟨?_,hkept reused,?_⟩
  · cases hanswer : (((ofCredential login).after issuer first).token issuer.logged (past 889)
      (1,[])).1 with
    | error f => exact absurd (hfault f hanswer).1 reused
    | ok v =>
      rcases hvalue v hanswer with ⟨wants,_⟩ | ⟨_,e,he,rfl,_⟩
      · exact absurd wants reused
      · obtain rfl : key = e := Option.some.inj (first_exchanges.symm.trans he)
        rfl
  · obtain ⟨f,hf⟩ := hfails wants key_unanswered
    refine ⟨f,?_⟩
    intro k errand needs
    rw [(herror f hf).2.2.2 k errand needs]
    exact ⟨rfl,rfl⟩

end BuildFarm.Client
