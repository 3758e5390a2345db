import BuildFarm.Auth.AccessToken
import BuildFarm.Client.Exchange
import BuildFarm.Json.Record
import BuildFarm.Url.Form

namespace BuildFarm.Client

structure Credential where
  tokenUrl : String
  refreshToken : String
  clientId : String := "rhsm-api"
deriving DecidableEq, Repr

/-- Why an exchange brought no token. -/
inductive ExchangeFault
  | unanswered (f : SendFault)
  | refused (status : Nat) (text : String)
  | unreadable
  | lifetime (seconds : Int)
deriving DecidableEq, Repr

def ExchangeFault.message : ExchangeFault → String
  | .unanswered f => f.message
  | .refused status text => s!"token endpoint returned {status}: {text}"
  | .unreadable => s!"unreadable token response: {Client.unreadable}"
  | .lifetime n => s!"token lifetime out of range: {n}s"

/-- What the token endpoint grants. -/
structure Grant where
  token : String
  expiresIn : Int
deriving DecidableEq, Repr

namespace Grant

structure Draft where
  token : Option String := none
  expiresIn : Option Int := none

def shape : Json.Shape Draft Grant where
  expected := "a token"
  fields :=
    [.required "access_token" Draft.token (fun v d => { d with token := some v })
      (fun _ => Json.Reader.text),
     .required "expires_in" Draft.expiresIn (fun v d => { d with expiresIn := some v })
      (fun _ => Json.Reader.integer)]
  blank := {}
  finish d := do return ⟨← d.token,← d.expiresIn⟩

def read : Json.Reader Grant :=
  Json.Reader.record shape Json.maxLevels

end Grant

namespace Credential

def request (c : Credential) : Unsent where
  method := "POST"
  url := c.tokenUrl
  contentType := some Form.contentType
  body := .ofText (String.ofList (Form.render
    [("grant_type","refresh_token"),("client_id",c.clientId),("refresh_token",c.refreshToken)]))

/-- The token that an answer to an exchange brings; it counts as issued when the exchange
was sent. -/
def accept (issued : Instant) (a : Answer) : Except ExchangeFault AccessToken :=
  if !a.isSuccess then .error (.refused a.status a.text)
  else
    match Json.parse Grant.read (Glyph.ofBytes a.body) with
    | .error _ => .error .unreadable
    | .ok g =>
      match AccessToken.ofExpiresIn? g.token issued g.expiresIn with
      | none => .error (.lifetime g.expiresIn)
      | some token => .ok token

def exchange (c : Credential) (t : Transport σ) (issued : Instant) (w : σ) :
    Except ExchangeFault AccessToken × σ :=
  match c.request.send t w with
  | (.error f,w) => (.error (.unanswered f),w)
  | (.ok a,w) => (accept issued a,w)

end Credential

/-- What the clock says when a token is asked for, and when an exchange is sent. -/
structure Moment where
  asked : Instant
  sent : Instant
deriving DecidableEq, Repr

structure TokenSource where
  credential : Credential
  cached : Option AccessToken
deriving DecidableEq, Repr

namespace TokenSource

def ofCredential (c : Credential) : TokenSource := ⟨c,none⟩

/-- The cached token, if it may be used again. -/
def fresh? (s : TokenSource) (now : Instant) : Option AccessToken :=
  s.cached.filter (fun token => token.isFresh now)

/-- A failed exchange leaves the cached token as it is. -/
def token (s : TokenSource) (t : Transport σ) (m : Moment) (w : σ) :
    Except ExchangeFault String × TokenSource × σ :=
  match s.fresh? m.asked with
  | some token => (.ok token.value,s,w)
  | none =>
    match s.credential.exchange t m.sent w with
    | (.error f,w) => (.error f,s,w)
    | (.ok token,w) => (.ok token.value,{ s with cached := some token },w)

end TokenSource

end BuildFarm.Client
