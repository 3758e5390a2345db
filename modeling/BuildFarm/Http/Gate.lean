import BuildFarm.Auth.Policy
import BuildFarm.Config
import BuildFarm.Http.Message

namespace BuildFarm.Http

/-- Without a secret no bearer token is valid. -/
structure Access where
  policy : Policy
  secret : Option Bytes

namespace Access

def everyone : Access := ⟨.everyone,none⟩

def ofConfig (c : Config) : Access :=
  ⟨.ofAccounts c.allowed,c.secret.map Bytes.ofText⟩

def identityHeader : String := "x-rh-identity"

/-- The token of an authorization header, if it names a bearer token. -/
def bearer? (r : Request) : Option String := do
  let value ← r.headerText? "authorization"
  let rest ← Text.dropLead? "Bearer ".toList value.toList
  let token := Text.trim (String.ofList rest)
  if token = "" then none else some token

def credentials (r : Request) : Credentials :=
  ⟨r.headerText? identityHeader,bearer? r⟩

def admits (a : Access) (now : Instant) (r : Request) : Bool :=
  (a.policy.authenticate (credentials r) a.secret now).toBool

end Access

end BuildFarm.Http
