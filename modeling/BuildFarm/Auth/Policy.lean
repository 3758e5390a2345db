import BuildFarm.Auth.Assertion
import BuildFarm.Auth.Bearer

namespace BuildFarm

inductive AccessFault
  | missingCredentials
  | assertion (f : Assertion.Fault)
  | bearer (f : TokenFault)
  | accountNotAllowed (account : String)
deriving DecidableEq, Repr

def AccessFault.message : AccessFault → String
  | .missingCredentials => "no identity assertion or bearer token present"
  | .assertion f => s!"identity assertion rejected: {f.message}"
  | .bearer f => s!"bearer token rejected: {f.message}"
  | .accountNotAllowed a => s!"account '{a}' is not allowed"

structure Credentials where
  assertion : Option String
  bearer : Option String
deriving DecidableEq, Repr

structure Policy where
  allowed : List String
deriving DecidableEq, Repr

namespace Policy

/-- Blank accounts are left out. -/
def ofAccounts (accounts : List String) : Policy :=
  ⟨Sorted.ofList (accounts.filter (fun a => !Text.allBlank a))⟩

def everyone : Policy := ⟨[]⟩

def isEnforced (p : Policy) : Bool :=
  !p.allowed.isEmpty

def allows (p : Policy) (account : String) : Bool :=
  p.allowed.contains account

/-- Without a secret no bearer token is valid. -/
def identify (c : Credentials) (secret : Option Bytes) (now : Instant) :
    Except AccessFault Identity :=
  match c.assertion,c.bearer,secret with
  | some a,_,_ => (Assertion.decode a).mapError .assertion
  | none,some token,some secret =>
    ((Bearer.validate secret token now).map Claims.identity).mapError .bearer
  | _,_,_ => .error .missingCredentials

/-- No identity where nothing is asked for. -/
def authenticate (p : Policy) (c : Credentials) (secret : Option Bytes) (now : Instant) :
    Except AccessFault (Option Identity) :=
  if p.isEnforced then
    match identify c secret now with
    | .error f => .error f
    | .ok i => if p.allows i.account then .ok (some i) else .error (.accountNotAllowed i.account)
  else .ok none

end Policy

end BuildFarm
