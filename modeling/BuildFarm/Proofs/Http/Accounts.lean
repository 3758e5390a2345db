import BuildFarm.Proofs.Http.Gate
import BuildFarm.Proofs.Text.Blank
import Mathlib.Logic.Function.Basic
import Mathlib.Logic.Relation

namespace BuildFarm

namespace Config

open Text

def accountsKey : String := "KILN_ALLOWED_ACCOUNTS"

/-- The account is one of the pieces between commas, apart from the blanks around the piece. -/
def Lists (value account : String) : Prop :=
  account ≠ "" ∧ ∃ p, Piece ',' value.toList p ∧ Strips p account.toList

def Names (lookup : String → Option String) (account : String) : Prop :=
  ∃ value, lookup accountsKey = some value ∧ Lists value account

/-- What may be done to the pieces of a list: blanks are put around one, an empty one is added, one
is repeated, or they are put in another order. -/
inductive Edit : List (List Char) → List (List Char) → Prop
  | padded {lead trail : List Char} (front : Blank lead) (back : Blank trail) :
      Edit (ps ++ p :: qs) (ps ++ (lead ++ p ++ trail) :: qs)
  | empty (ps qs : List (List Char)) : Edit (ps ++ qs) (ps ++ [] :: qs)
  | repeated (listed : p ∈ ps ++ qs) : Edit (ps ++ qs) (ps ++ p :: qs)
  | reordered (order : ps.Perm qs) : Edit ps qs

/-- The list is laid out in another way. -/
inductive Reworded : String → String → Prop
  | around {lead trail : String} (front : Blank lead.toList) (back : Blank trail.toList) :
      Reworded value (lead ++ value ++ trail)
  | pieces (edit : Edit (pieces ',' value.toList) (pieces ',' other.toList)) :
      Reworded value other

section Lists

variable {value other account : String}

theorem lists_iff : Lists value account ↔
    account ≠ "" ∧ account.toList ∈ strippedPieces ',' value.toList := by
  simp only [Lists,strippedPieces,List.mem_map,mem_pieces,strips_iff]

theorem mem_accounts : account ∈ accounts value ↔ Lists value account := by
  rw [lists_iff,strippedPieces,List.mem_map]
  simp only [accounts,List.mem_filter,List.mem_map,trim,String.toList_ofList,decide_eq_true_eq]
  constructor
  · rintro ⟨⟨p,hp,rfl⟩,hne⟩
    exact ⟨hne,p,hp,by simp⟩
  · rintro ⟨hne,p,hp,ha⟩
    exact ⟨⟨p,hp,by rw [ha,String.ofList_toList]⟩,hne⟩

theorem lists_around {lead trail : String} (hl : Blank lead.toList) (ht : Blank trail.toList) :
    Lists (lead ++ value ++ trail) account ↔ Lists value account := by
  have hcomma : isBlank ',' = false := by decide
  rw [lists_iff,lists_iff,String.toList_append,String.toList_append,
    strippedPieces_around hcomma hl ht]

theorem lists_trim : Lists (trim value) account ↔ Lists value account := by
  obtain ⟨_,lead,trail,hl,ht,hv⟩ := trimmed_strips value.toList
  have hwhole : value = String.ofList lead ++ trim value ++ String.ofList trail := by
    apply String.toList_injective
    simpa [trim] using hv
  have hfront : Blank (String.ofList lead).toList := by simpa using hl
  have hback : Blank (String.ofList trail).toList := by simpa using ht
  rw [← lists_around hfront hback,← hwhole]

theorem not_lists_empty : ¬Lists "" account := by
  rw [lists_iff]
  rintro ⟨hne,hm⟩
  apply hne
  apply String.toList_injective
  simpa [strippedPieces,pieces,trimStart,trimEnd] using hm

theorem Edit.stripped {ps qs : List (List Char)} (h : Edit ps qs) {a : List Char} (ha : a ≠ []) :
    a ∈ ps.map (fun p => trimEnd (trimStart p)) ↔ a ∈ qs.map (fun p => trimEnd (trimStart p)) := by
  cases h with
  | padded front back => simp only [List.map_append,List.map_cons,trimmed_around front back]
  | empty ps qs => simp [trimStart,trimEnd,ha]
  | repeated listed =>
    simp only [List.map_append,List.map_cons,List.mem_append,List.mem_cons]
    have hm := List.mem_map_of_mem (f := fun p => trimEnd (trimStart p)) listed
    simp only [List.map_append,List.mem_append] at hm
    constructor
    · rintro (h | h)
      · exact Or.inl h
      · exact Or.inr (Or.inr h)
    · rintro (h | rfl | h)
      · exact Or.inl h
      · exact hm
      · exact Or.inr h
  | reordered order => exact (order.map _).mem_iff

theorem Reworded.lists (h : Reworded value other) : Lists value account ↔ Lists other account := by
  cases h with
  | around front back => exact (lists_around front back).symm
  | pieces edit =>
    rw [lists_iff,lists_iff]
    refine and_congr_right fun hne => edit.stripped ?_
    simpa using hne

theorem lists_reworded (h : Relation.EqvGen Reworded value other) :
    Lists value account ↔ Lists other account := by
  induction h with
  | rel _ _ h => exact h.lists
  | refl _ => rfl
  | symm _ _ _ ih => exact ih.symm
  | trans _ _ _ _ _ ih ih' => exact ih.trans ih'

end Lists

section Read

variable {lookup : String → Option String} {c : Config} {account : String}

theorem setting_some {key value : String} (h : lookup key = some value) :
    setting lookup key = if trim value = "" then none else some (trim value) := by
  simp only [setting,h]

theorem mem_allowed : account ∈ ((setting lookup accountsKey).map accounts).getD [] ↔
    Names lookup account := by
  unfold Names
  cases hl : lookup accountsKey with
  | none => simp [setting,hl]
  | some value =>
    simp only [Option.some.injEq,exists_eq_left']
    rw [setting_some hl,← lists_trim]
    split
    · rename_i he
      simp [he,not_lists_empty]
    · rw [Option.map_some,Option.getD_some,mem_accounts]

theorem read_allowed (h : read lookup = .ok c) : account ∈ c.allowed ↔ Names lookup account := by
  obtain ⟨listen,_,h⟩ := ok_of_bind h
  obtain ⟨store,_,h⟩ := ok_of_bind h
  cases h
  exact mem_allowed

/-- The list of accounts decides nothing but which accounts are allowed. -/
theorem read_update (h : read lookup = .ok c) (value : String) :
    ∃ d, read (Function.update lookup accountsKey (some value)) = .ok d ∧ d.secret = c.secret := by
  have hkept (key : String) (hk : key ≠ accountsKey) :
      setting (Function.update lookup accountsKey (some value)) key = setting lookup key := by
    simp only [setting,Function.update_of_ne hk]
  obtain ⟨listen,hlisten,h⟩ := ok_of_bind h
  obtain ⟨store,hstore,h⟩ := ok_of_bind h
  cases h
  unfold read
  rw [hkept "KILN_LISTEN_ADDR" (by decide),hkept "KILN_STORE" (by decide),
    hkept "KILN_STATE_DIR" (by decide),hkept "KILN_ARTIFACTS_DIR" (by decide),
    hkept "KILN_JWT_SECRET" (by decide),hlisten,ok_bind,hstore]
  exact ⟨_,rfl,rfl⟩

theorem names_update {value : String} :
    Names (Function.update lookup accountsKey (some value)) account ↔ Lists value account := by
  simp [Names]

theorem Names.seen (h : Names lookup account) : Text.allBlank account = false := by
  obtain ⟨value,_,hne,p,_,hbare,_⟩ := h
  exact allBlank_eq_false.mpr (hbare.seen (by simpa using hne))

end Read

end Config

namespace Policy

theorem authenticate_congr {p q : Policy} (h : ∀ a, p.allows a = true ↔ q.allows a = true)
    (he : p.isEnforced = true ↔ q.isEnforced = true) (c : Credentials) (secret : Option Bytes)
    (now : Instant) : p.authenticate c secret now = q.authenticate c secret now := by
  unfold authenticate
  simp only [h,he]

end Policy

namespace Http.Access

open Config Text

variable {lookup : String → Option String} {c d : Config}

theorem ofConfig_allows (h : Config.read lookup = .ok c) (account : String) :
    (ofConfig c).policy.allows account = true ↔ Names lookup account := by
  rw [ofConfig,Policy.allows_ofAccounts,Policy.Listed,read_allowed h]
  exact and_iff_left_of_imp Names.seen

theorem ofConfig_enforced (h : Config.read lookup = .ok c) :
    (ofConfig c).policy.isEnforced = true ↔ ∃ account, Names lookup account := by
  rw [ofConfig,Policy.isEnforced_ofAccounts]
  refine exists_congr fun account => ?_
  rw [← Policy.allows_ofAccounts]
  exact ofConfig_allows h account

/-- An account stands in the list if there is a piece that is not of blanks alone. -/
theorem exists_lists_iff {value : String} :
    (∃ account, Lists value account) ↔ ∃ p, Piece ',' value.toList p ∧ Seen p := by
  constructor
  · rintro ⟨account,hne,p,hp,hs⟩
    refine ⟨p,hp,trimmed_ne_nil.mp ?_⟩
    rw [strips_iff.mp hs]
    simpa using hne
  · rintro ⟨p,hp,hs⟩
    refine ⟨String.ofList (trimEnd (trimStart p)),?_,p,hp,by simpa using trimmed_strips p⟩
    simpa using trimmed_ne_nil.mpr hs

theorem ofConfig_congr (hc : Config.read lookup = .ok c) {lookup' : String → Option String}
    (hd : Config.read lookup' = .ok d) (h : ∀ a, Names lookup' a ↔ Names lookup a)
    (credentials : Credentials) (secret : Option Bytes) (now : Instant) :
    (ofConfig d).policy.authenticate credentials secret now =
      (ofConfig c).policy.authenticate credentials secret now := by
  apply Policy.authenticate_congr
  · intro a
    rw [ofConfig_allows hd,ofConfig_allows hc,h]
  · simp only [ofConfig_enforced hd,ofConfig_enforced hc,h]

theorem admits_asserted {a : Access} {r : Request} {header : String} {i : Identity}
    (hh : r.headerText? identityHeader = some header) (hi : Assertion.decode header = .ok i)
    (now : Instant) : a.admits now r = true ↔
      a.policy.isEnforced = false ∨ a.policy.allows i.account = true := by
  have hidentify : Policy.identify (credentials r) a.secret now = .ok i := by
    simp [Policy.identify,credentials,hh,hi,Except.mapError]
  unfold admits Policy.authenticate
  rw [hidentify]
  cases a.policy.isEnforced with
  | false => simp [Except.toBool]
  | true => cases h : a.policy.allows i.account <;> simp [h,Except.toBool]

/-- For every environment that a server can be configured by, its policy allows an account exactly
if the account is more than nothing and stands between commas in the list, apart from the blanks
around it; and it asks for one exactly if something is to be seen in the list besides commas. So a
list that is laid out in another way leaves every decision as it was. Whoever states an account is
let through exactly if nobody is asked or the account is one of the list. -/
theorem allow_list_read (hc : Config.read lookup = .ok c) :
    (∀ account, (ofConfig c).policy.allows account = true ↔ Names lookup account) ∧
    ((ofConfig c).policy.isEnforced = true ↔
      ∃ value p, lookup accountsKey = some value ∧ Piece ',' value.toList p ∧ Seen p) ∧
    (∀ value other, lookup accountsKey = some value → Relation.EqvGen Reworded value other →
      ∃ d, Config.read (Function.update lookup accountsKey (some other)) = .ok d ∧
        (∀ credentials secret now, (ofConfig d).policy.authenticate credentials secret now =
          (ofConfig c).policy.authenticate credentials secret now) ∧
        ∀ now r, (ofConfig d).admits now r = (ofConfig c).admits now r) ∧
    ∀ now (r : Request) header i, r.headerText? identityHeader = some header →
      Assertion.decode header = .ok i → ((ofConfig c).admits now r = true ↔
        (ofConfig c).policy.isEnforced = false ∨ Names lookup i.account) := by
  refine ⟨ofConfig_allows hc,?_,?_,?_⟩
  · rw [ofConfig_enforced hc]
    constructor
    · rintro ⟨account,value,hv,hl⟩
      obtain ⟨p,hp,hs⟩ := exists_lists_iff.mp ⟨account,hl⟩
      exact ⟨value,p,hv,hp,hs⟩
    · rintro ⟨value,p,hv,hp,hs⟩
      obtain ⟨account,hl⟩ := exists_lists_iff.mpr ⟨p,hp,hs⟩
      exact ⟨account,value,hv,hl⟩
  · intro value other hv hr
    obtain ⟨d,hd,hs⟩ := read_update hc other
    have hsame := ofConfig_congr hc hd (fun a => by
      rw [names_update,← lists_reworded hr]
      simp [Names,hv])
    refine ⟨d,hd,hsame,?_⟩
    intro now r
    unfold admits
    rw [hsame]
    simp only [ofConfig,hs]
  · intro now r header i hh hi
    rw [admits_asserted hh hi,ofConfig_allows hc]

namespace Sample

/-- Two accounts with blanks around them. -/
def listing : String := "\u00a0000000, 123456\t"

def settings (key : String) : Option String :=
  if key = accountsKey then some listing else none

def config : Config :=
  { listen := defaultListen,store := .memory,artifacts := none,allowed := ["000000","123456"],
    secret := none }

theorem read_settings : Config.read settings = .ok config := by
  decide +kernel

/-- States the second of the accounts. -/
def statement : String := "eyJpZGVudGl0eSI6eyJhY2NvdW50X251bWJlciI6IjEyMzQ1NiJ9fQ=="

def visit : Request :=
  ⟨"GET","/nope",[("X-RH-Identity",Bytes.ofText statement)],.empty⟩

end Sample

theorem allow_list_read_padded :
    (ofConfig Sample.config).policy.allows "123456" = true ∧
    (ofConfig Sample.config).policy.allows " 123456" = false ∧
    (ofConfig Sample.config).policy.isEnforced = true ∧
    (∃ d, Config.read (Function.update Sample.settings accountsKey
        (some (" " ++ Sample.listing ++ "\n"))) = .ok d ∧
      ∀ now r, (ofConfig d).admits now r = (ofConfig Sample.config).admits now r) ∧
    ∀ now, (ofConfig Sample.config).admits now Sample.visit = true := by
  obtain ⟨hallows,henforced,hreworded,hasserted⟩ := allow_list_read Sample.read_settings
  have hlists {account : String} : Names Sample.settings account ↔ Lists Sample.listing account := by
    simp [Names,Sample.settings]
  have hsecond : Names Sample.settings "123456" := by
    rw [hlists,lists_iff]
    decide
  refine ⟨(hallows _).mpr hsecond,?_,?_,?_,?_⟩
  · rw [← Bool.not_eq_true,hallows,hlists,lists_iff]
    decide
  · exact henforced.mpr ⟨_," 123456\t".toList,rfl,mem_pieces.mp (by decide),by decide⟩
  · have hpadded : Reworded Sample.listing (" " ++ Sample.listing ++ "\n") :=
      .around (by decide) (by decide)
    obtain ⟨d,hd,_,hsame⟩ := hreworded _ _ rfl (.rel _ _ hpadded)
    exact ⟨d,hd,hsame⟩
  · intro now
    exact (hasserted now Sample.visit Sample.statement ⟨"123456",none,none,[]⟩ (by decide +kernel)
      (by decide +kernel)).mpr (.inr hsecond)

end Http.Access

end BuildFarm
