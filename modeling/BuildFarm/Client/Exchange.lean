import BuildFarm.Body
import BuildFarm.Text.Base64
import BuildFarm.Text.Charset
import BuildFarm.Url

namespace BuildFarm.Client

/-- A request that can be sent. -/
structure Sent where
  method : String
  url : Url
  /-- Who asks, as the address tells and as the request does. -/
  authorization : List String
  contentType : Option String
  body : Body
deriving DecidableEq, Repr

structure Answer where
  status : Nat
  contentType : Option String
  body : Bytes
deriving DecidableEq, Repr

namespace Answer

def isSuccess (a : Answer) : Bool :=
  200 ≤ a.status && a.status < 300

def text (a : Answer) : String :=
  ((a.contentType.map Charset.ofContentType).getD .utf8).decode a.body

end Answer

/-- Answers a request, or does not. -/
abbrev Transport (σ : Type) := Sent → σ → Option Answer × σ

/-- Why there is no answer. -/
inductive SendFault
  /-- The address is no address of the web. -/
  | address (url : Option Url)
  | authorization
  | unanswered (url : Url)
deriving DecidableEq, Repr

def SendFault.message : SendFault → String
  | .address none => "builder error"
  | .address (some u) => s!"builder error for url ({u.text})"
  | .authorization => "builder error"
  | .unanswered u => s!"error sending request for url ({u.text})"

/-- A request before its address is read. -/
structure Unsent where
  method : String
  url : String
  authorization : Option String := none
  contentType : Option String := none
  body : Body := .empty

/-- What may stand in a header: no control characters but tabs. -/
def isHeaderText (s : String) : Bool :=
  s.toList.all (fun c => (0x20 ≤ c.toNat && c.toNat ≠ 0x7F) || c = '\t')

/-- How a name and a password are told to a server. -/
def basicText (name : String) (password : Option String) : String :=
  "Basic " ++ Base64.encodedText Base64.standard (Bytes.ofText (name ++ ":" ++ password.getD ""))

/-- Who asks is told in a header, and no longer in the address. -/
def Unsent.sent? (r : Unsent) : Except SendFault Sent :=
  match Url.parse? r.url with
  | none => .error (.address none)
  | some u =>
    let asker := u.asker?.map (fun p => basicText p.1 p.2)
    let place := u.anonymous
    if u.host.isNone then .error (.address (some u))
    else if r.authorization.any (fun s => !isHeaderText s) then .error .authorization
    else if !place.isWeb then .error (.address (some place))
    else .ok ⟨r.method,place,asker.toList ++ r.authorization.toList,r.contentType,r.body⟩

/-- Nothing reaches the transport unless it can be sent. -/
def Unsent.send (r : Unsent) (t : Transport σ) (w : σ) : Except SendFault Answer × σ :=
  match r.sent? with
  | .error f => (.error f,w)
  | .ok s =>
    match t s w with
    | (some a,w) => (.ok a,w)
    | (none,w) => (.error (.unanswered s.url),w)

/-- Told of an answer that is not what it should be. -/
def unreadable : String := "error decoding response body"

end BuildFarm.Client
