import BuildFarm.Http.Server
import BuildFarm.Proofs.Outcome
import BuildFarm.Proofs.Table

namespace BuildFarm

namespace Policy

/-- The account is one of those named, and more than blanks. -/
def Listed (accounts : List String) (account : String) : Prop :=
  account ∈ accounts ∧ Text.allBlank account = false

theorem allows_ofAccounts {accounts : List String} {account : String} :
    (ofAccounts accounts).allows account = true ↔ Listed accounts account := by
  simp [ofAccounts,allows,Listed,Sorted.mem_ofList]

theorem isEnforced_ofAccounts {accounts : List String} :
    (ofAccounts accounts).isEnforced = true ↔ ∃ a, Listed accounts a := by
  rw [isEnforced,Bool.not_eq_true',List.isEmpty_eq_false_iff_exists_mem]
  apply exists_congr
  intro a
  rw [← allows_ofAccounts,allows,List.contains_iff_mem]

end Policy

namespace Http

namespace Request

/-- The value of the first header of a name, in whatever case it is written. -/
def First (r : Request) (name : String) (value : Bytes) : Prop :=
  ∃ before n behind, r.headers = before ++ (n,value) :: behind ∧ n.toLower = name ∧
    ∀ h ∈ before, h.1.toLower ≠ name

/-- Visible characters, blanks and tabs. -/
def Visible (value : Bytes) : Prop :=
  ∀ b ∈ value, (32 ≤ b ∧ b < 127) ∨ b = 9

def asText (value : Bytes) : String :=
  String.ofList (value.map (fun b => Char.ofNat b.toNat))

theorem header?_some {r : Request} : r.header? name = some value ↔ r.First name value := by
  simp only [header?,Option.map_eq_some_iff,Prod.exists,exists_eq_right,
    List.find?_eq_some_iff_append,First]
  constructor
  · rintro ⟨n,hn,before,behind,hp,hb⟩
    exact ⟨before,n,behind,hp,of_decide_eq_true hn,fun h hm => by simpa using hb h hm⟩
  · rintro ⟨before,n,behind,hp,hn,hb⟩
    exact ⟨n,decide_eq_true hn,before,behind,hp,fun h hm => by simpa using hb h hm⟩

theorem visible_iff {value : Bytes} :
    value.all (fun b => (32 ≤ b && b < 127) || b = 9) = true ↔ Visible value := by
  simp [Visible]

theorem headerText?_some {r : Request} {t : String} : r.headerText? name = some t ↔
    ∃ value, r.First name value ∧ Visible value ∧ asText value = t := by
  simp only [headerText?,Option.bind_eq_bind,Option.bind_eq_some_iff,header?_some,
    Option.ite_none_right_eq_some,visible_iff,Option.some.injEq,asText]

theorem headerText?_none {r : Request} : r.headerText? name = none ↔
    ∀ value, r.First name value → ¬Visible value := by
  rw [Option.eq_none_iff_forall_ne_some]
  constructor
  · intro h value hf hv
    exact h _ (headerText?_some.mpr ⟨value,hf,hv,rfl⟩)
  · intro h t ht
    obtain ⟨value,hf,hv,_⟩ := headerText?_some.mp ht
    exact h value hf hv

/-- A request has one first header of a name at most. -/
theorem First.unique {r : Request} (h : r.First name value) (h' : r.First name value') :
    value = value' := by
  rw [← header?_some] at h h'
  exact Option.some.inj (h.symm.trans h')

end Request

namespace Access

open Request

/-- The first authorization header names a bearer token: something behind the word and one blank,
apart from the blanks around it. -/
structure Bears (r : Request) (token : String) : Prop where
  header : ∃ value rest, r.First "authorization" value ∧ Visible value ∧
    asText value = "Bearer " ++ rest ∧ Text.trim rest = token
  something : token ≠ ""

theorem dropLead?_some {lead cs rest : List Char} :
    Text.dropLead? lead cs = some rest ↔ cs = lead ++ rest := by
  simp only [Text.dropLead?,Option.ite_none_right_eq_some,List.isPrefixOf_iff_prefix,
    Option.some.injEq]
  constructor
  · rintro ⟨⟨behind,rfl⟩,rfl⟩
    rw [List.drop_left]
  · rintro rfl
    exact ⟨List.prefix_append lead rest,List.drop_left⟩

theorem bearer?_some {r : Request} : bearer? r = some token ↔ Bears r token := by
  simp only [bearer?,Option.bind_eq_bind,Option.bind_eq_some_iff,headerText?_some,dropLead?_some,
    Option.ite_none_left_eq_some,Option.some.injEq]
  constructor
  · rintro ⟨t,⟨value,hf,hv,rfl⟩,rest,hr,hne,rfl⟩
    refine ⟨⟨value,String.ofList rest,hf,hv,?_,rfl⟩,hne⟩
    apply String.toList_injective
    simp [hr]
  · rintro ⟨⟨value,rest,hf,hv,hr,rfl⟩,hne⟩
    refine ⟨_,⟨value,hf,hv,rfl⟩,rest.toList,?_,?_⟩
    · rw [hr,String.toList_append]
    · rw [String.ofList_toList]
      exact ⟨hne,rfl⟩

/-- What lets a request through: that nobody asks for more; or an assertion of an account that is
listed; or, where no assertion can be read, a valid token of such an account. -/
inductive Admitted (accounts : List String) (secret : Option Bytes) (now : Instant)
    (r : Request) : Prop
  | unasked (h : ∀ a ∈ accounts, Text.allBlank a = true)
  | assertion (first : r.First "x-rh-identity" value) (visible : Visible value)
      (decoded : Assertion.decode (asText value) = .ok i) (listed : Policy.Listed accounts i.account)
  | bearer (unasserted : ∀ value, r.First "x-rh-identity" value → ¬Visible value)
      (bears : Bears r token) (shared : secret = some key)
      (valid : Bearer.validate key token now = .ok claims)
      (listed : Policy.Listed accounts claims.account)

/-- Where accounts are listed, whoever is let through is known as one of them. -/
theorem authenticate_true {accounts : List String} {c : Credentials} {secret : Option Bytes}
    (he : (Policy.ofAccounts accounts).isEnforced = true) :
    ((Policy.ofAccounts accounts).authenticate c secret now).toBool = true ↔
      ∃ i, Policy.identify c secret now = .ok i ∧ Policy.Listed accounts i.account := by
  unfold Policy.authenticate
  rw [if_pos he]
  cases Policy.identify c secret now with
  | error f => simp [Except.toBool]
  | ok i =>
    by_cases hl : (Policy.ofAccounts accounts).allows i.account = true
    · simp [hl,Except.toBool,← Policy.allows_ofAccounts]
    · simp [hl,Except.toBool,← Policy.allows_ofAccounts]

theorem identify_bearer {c : Credentials} {secret : Option Bytes} (h : c.assertion = none) :
    Policy.identify c secret now = .ok i ↔ ∃ token key claims, c.bearer = some token ∧
      secret = some key ∧ Bearer.validate key token now = .ok claims ∧ claims.identity = i := by
  unfold Policy.identify
  rw [h]
  cases c.bearer with
  | none => simp
  | some token =>
    cases secret with
    | none => simp
    | some key =>
      dsimp only
      rw [mapError_ok]
      cases hv : Bearer.validate key token now <;> simp [Except.map,hv]

/-- What a request is known by: its assertion, if one can be read, and else its token. -/
theorem identify_ok {r : Request} {secret : Option Bytes} :
    Policy.identify (credentials r) secret now = .ok i ↔
      (∃ value, r.First "x-rh-identity" value ∧ Visible value ∧
        Assertion.decode (asText value) = .ok i) ∨
      (∀ value, r.First "x-rh-identity" value → ¬Visible value) ∧
        ∃ token key claims, Bears r token ∧ secret = some key ∧
          Bearer.validate key token now = .ok claims ∧ claims.identity = i := by
  cases ha : r.headerText? "x-rh-identity" with
  | some t =>
    obtain ⟨value,hf,hv,rfl⟩ := headerText?_some.mp ha
    have hi : Policy.identify (credentials r) secret now =
        (Assertion.decode (asText value)).mapError .assertion := by
      simp only [Policy.identify,credentials,identityHeader,ha]
    rw [hi,mapError_ok]
    constructor
    · intro hd
      exact Or.inl ⟨value,hf,hv,hd⟩
    · rintro (⟨value',hf',_,hd⟩ | ⟨hn,_⟩)
      · exact hf.unique hf' ▸ hd
      · exact absurd hv (hn value hf)
  | none =>
    have hn := headerText?_none.mp ha
    rw [identify_bearer (c := credentials r) ha]
    simp only [credentials,bearer?_some]
    constructor
    · exact fun hb => Or.inr ⟨hn,hb⟩
    · rintro (⟨value,hf,hv,_⟩ | ⟨_,hb⟩)
      · exact absurd hv (hn value hf)
      · exact hb

theorem admits_iff {accounts : List String} {secret : Option Bytes} {r : Request} :
    admits ⟨.ofAccounts accounts,secret⟩ now r = true ↔ Admitted accounts secret now r := by
  unfold admits
  by_cases he : (Policy.ofAccounts accounts).isEnforced = true
  · rw [authenticate_true he]
    constructor
    · rintro ⟨i,hi,hl⟩
      rcases identify_ok.mp hi with ⟨value,hf,hv,hd⟩ | ⟨hn,token,key,claims,hb,hs,hc,rfl⟩
      · exact .assertion hf hv hd hl
      · exact .bearer hn hb hs hc hl
    · intro h
      cases h with
      | unasked h =>
        obtain ⟨a,ha,hb⟩ := Policy.isEnforced_ofAccounts.mp he
        rw [h a ha] at hb
        cases hb
      | assertion first visible decoded listed =>
        exact ⟨_,identify_ok.mpr (Or.inl ⟨_,first,visible,decoded⟩),listed⟩
      | bearer unasserted bears shared valid listed =>
        exact ⟨_,identify_ok.mpr (Or.inr ⟨unasserted,_,_,_,bears,shared,valid,rfl⟩),listed⟩
  · have ho : ((Policy.ofAccounts accounts).authenticate (credentials r) secret now).toBool = true := by
      simp [Policy.authenticate,he,Except.toBool]
    have hall : ∀ a ∈ accounts, Text.allBlank a = true := by
      intro a ha
      by_contra hb
      exact he (Policy.isEnforced_ofAccounts.mpr ⟨a,ha,by simpa using hb⟩)
    exact ⟨fun _ => .unasked hall,fun _ => ho⟩

/-- Where an account is listed, nobody is let through without a header. -/
theorem not_admitted_bare {r : Request} (hr : r.headers = []) {accounts : List String}
    {a : String} (ha : a ∈ accounts) (hb : Text.allBlank a = false) (secret : Option Bytes)
    (now : Instant) : ¬Admitted accounts secret now r := by
  have hnone (name : String) (value : Bytes) : ¬r.First name value := by
    rintro ⟨before,n,behind,hp,_⟩
    simp [hr] at hp
  intro h
  cases h with
  | unasked h => simp [h a ha] at hb
  | assertion first => exact hnone _ _ first
  | bearer _ bears =>
    obtain ⟨value,_,hf,_⟩ := bears.header
    exact hnone _ _ hf

end Access

namespace Server

/-- The path is one of those that tell something. -/
def Shows (r : Request) : Prop :=
  ∃ e, Endpoint.ofPath? r.path = some e ∧ (e.action? "GET").isSome

/-- What a rejected request is told: that there is nothing. Of the generic answer HEAD gets no body
where the path has something to show; elsewhere it gets the body too. -/
structure Refused (r : Request) (reply : Reply) : Prop where
  status : reply.status = 404
  body : ¬(r.method = "HEAD" ∧ Shows r) → reply.body = notFound.body
  head : r.method = "HEAD" → Shows r → reply.body = ""

theorem admits_everyone (now : Instant) (r : Request) : Access.everyone.admits now r = true := rfl

namespace Sample

/-- Someone who says nothing about who they are asks for a path that is not there. -/
def nobody (method : String) : Request := ⟨method,"/nope",[],.empty⟩

def vacant : Services := .ofStore (.inMemory .empty) ⟨none⟩

def moment : Occasion := ⟨⟨.epoch,0⟩,[],.zero⟩

theorem not_admitted (method : String) :
    ¬Access.Admitted ["a"] none moment.reading.now (nobody method) :=
  Access.not_admitted_bare rfl (a := "a") List.mem_cons_self (by decide) none _

end Sample

end Server

end Http

end BuildFarm
