import BuildFarm.Auth.Claims
import BuildFarm.Auth.WebKey
import BuildFarm.Hash.Sha256
import BuildFarm.Text.Base64

namespace BuildFarm.Bearer

inductive Algorithm
  | hs256
  | hs384
  | hs512
  | es256
  | es384
  | rs256
  | rs384
  | rs512
  | ps256
  | ps384
  | ps512
  | edDsa
deriving DecidableEq, Repr

namespace Algorithm

def names : List (String × Algorithm) :=
  [("HS256",hs256),("HS384",hs384),("HS512",hs512),("ES256",es256),("ES384",es384),
    ("RS256",rs256),("RS384",rs384),("RS512",rs512),("PS256",ps256),("PS384",ps384),
    ("PS512",ps512),("EdDSA",edDsa)]

end Algorithm

structure HeaderDraft where
  type : Option (Option String) := none
  algorithm : Option Algorithm := none
  content : Option (Option String) := none
  keySetUrl : Option (Option String) := none
  key : Option (Option Unit) := none
  keyId : Option (Option String) := none
  chainUrl : Option (Option String) := none
  chain : Option (Option (List String)) := none
  thumbprint : Option (Option String) := none
  thumbprint256 : Option (Option String) := none

def textField (name : String) (get : HeaderDraft → Option (Option String))
    (set : Option String → HeaderDraft → HeaderDraft) : Json.Field HeaderDraft :=
  .optional name get set (fun _ => Json.Reader.text)

/-- Of a header only the algorithm counts, but all that it names must be of its kind. -/
def headerShape : Json.Shape HeaderDraft Algorithm where
  expected := "struct Header"
  fields :=
    [textField "typ" HeaderDraft.type (fun v d => { d with type := some v }),
     .required "alg" HeaderDraft.algorithm (fun v d => { d with algorithm := some v })
      (fun levels => Json.Reader.choice levels Algorithm.names),
     textField "cty" HeaderDraft.content (fun v d => { d with content := some v }),
     textField "jku" HeaderDraft.keySetUrl (fun v d => { d with keySetUrl := some v }),
     .optional "jwk" HeaderDraft.key (fun v d => { d with key := some v })
      WebKey.read,
     textField "kid" HeaderDraft.keyId (fun v d => { d with keyId := some v }),
     textField "x5u" HeaderDraft.chainUrl (fun v d => { d with chainUrl := some v }),
     .optional "x5c" HeaderDraft.chain (fun v d => { d with chain := some v })
      (fun levels => Json.Reader.list levels (fun _ => Json.Reader.text)),
     textField "x5t" HeaderDraft.thumbprint (fun v d => { d with thumbprint := some v }),
     textField "x5t#S256" HeaderDraft.thumbprint256 (fun v d => { d with thumbprint256 := some v })]
  blank := {}
  finish d := d.algorithm

/-- Which registered claims a payload has, and whether it names an audience. -/
structure RegisteredDraft where
  expires : Option Unit := none
  notBefore : Option Unit := none
  subject : Option Unit := none
  issuer : Option Unit := none
  audience : Option Bool := none

/-- A date is a number, but anything else is passed over, as far as it can be read. Of a
bracket that is only the bracket itself. -/
def date : Json.Reader Unit := do
  let _ ← Json.Reader.attempt (do
    match ← Json.Reader.next with
    | some (.char '[') =>
      Json.Reader.skip
      Json.Reader.closing Json.Reader.closeList (Json.Reader.fail .number)
    | some (.char '{') =>
      Json.Reader.skip
      Json.Reader.closing (Json.Reader.closeLeniently '}') (Json.Reader.fail .number)
    | _ => Json.Reader.mismatch "a number" : Json.Reader Unit)

def isText : Json → Bool
  | .text _ => true
  | _ => false

/-- A text or a list of texts, an empty one too. -/
def isAudience : Json → Bool
  | .text _ => true
  | .array items => items.all isText
  | _ => false

/-- A name that cannot be read counts as none. -/
def audience (levels : Nat) : Json.Reader Bool := do
  match ← Json.Reader.attempt (Json.Reader.content levels) with
  | some j => return isAudience j
  | none => return false

def issuer (levels : Nat) : Json.Reader Unit := do
  let _ ← Json.Reader.attempt (Json.Reader.content levels)

def registeredShape : Json.Shape RegisteredDraft Bool where
  expected := "struct ClaimsForValidation"
  fields :=
    [.defaulted "exp" RegisteredDraft.expires (fun v d => { d with expires := some v }) ()
      (fun _ => date),
     .defaulted "nbf" RegisteredDraft.notBefore (fun v d => { d with notBefore := some v }) ()
      (fun _ => date),
     .defaulted "sub" RegisteredDraft.subject (fun v d => { d with subject := some v }) ()
      (fun _ => do let _ ← Json.Reader.attempt (Json.Reader.optional Json.Reader.text)),
     .defaulted "iss" RegisteredDraft.issuer (fun v d => { d with issuer := some v }) ()
      issuer,
     .defaulted "aud" RegisteredDraft.audience (fun v d => { d with audience := some v }) false
      audience]
  blank := {}
  finish d := d.audience

inductive Fault
  | token
  | signature
  | algorithm
  | audience
  | base64 (f : Base64.Fault)
  | json (f : Json.Fault)
deriving DecidableEq, Repr

def Fault.message : Fault → String
  | .token => "InvalidToken"
  | .signature => "InvalidSignature"
  | .algorithm => "InvalidAlgorithm"
  | .audience => "InvalidAudience"
  | .base64 f => s!"Base64 error: {f.message}"
  | .json f => s!"JSON error: {f.message}"

/-- The text in front of the last point and the text after it. -/
def splitLast? (cs : List Char) : Option (List Char × List Char) :=
  match cs.reverse.dropWhile (· ≠ '.') with
  | [] => none
  | _ :: front => some (front.reverse,(cs.reverse.takeWhile (· ≠ '.')).reverse)

def part (r : Json.Reader α) (bytes : Bytes) : Except Fault α :=
  (Json.parse r (Glyph.ofBytes bytes)).mapError .json

def bytesOf (cs : List Char) : Bytes :=
  Bytes.ofText (String.ofList cs)

def unpacked (cs : List Char) : Except Fault Bytes :=
  (Base64.decode Base64.urlSafe (bytesOf cs)).mapError .base64

/-- The signature of a header and claims that are joined by a point. -/
def sign (secret : Bytes) (signed : List Char) : Bytes :=
  Base64.encode Base64.urlSafe (Sha256.hmac secret (bytesOf signed))

def packed (bytes : Bytes) : List Char :=
  (Base64.encode Base64.urlSafe bytes).map (fun b => Char.ofNat b.toNat)

def issuedHeader : Json :=
  .object [("typ",.text "JWT"),("alg",.text "HS256")]

/-- A token of the claims, as whoever shares the secret issues it. -/
def issue (secret : Bytes) (c : Claims) : String :=
  let signed := packed (Bytes.ofText issuedHeader.compactText) ++
    '.' :: packed (Bytes.ofText c.toJson.compactText)
  String.ofList (signed ++ '.' :: (sign secret signed).map (fun b => Char.ofNat b.toNat))

/-- The claims of a well signed token, whatever their window. -/
def open? (secret : Bytes) (token : String) : Except Fault Claims :=
  match splitLast? token.toList with
  | none => .error .token
  | some (signed,signature) =>
    match splitLast? signed with
    | none => .error .token
    | some (header,payload) => do
      let algorithm ← part (Json.Reader.record headerShape Json.maxLevels) (← unpacked header)
      if algorithm ≠ .hs256 then .error .algorithm
      else if bytesOf signature ≠ sign secret signed then .error .signature
      else
        let bytes ← unpacked payload
        let claims ← part Claims.read bytes
        let forAudience ← part (Json.Reader.record registeredShape Json.maxLevels) bytes
        if forAudience then .error .audience else .ok claims

def validate (secret : Bytes) (token : String) (now : Instant) : Except TokenFault Claims := do
  let claims ← (open? secret token).mapError (fun f => .malformed f.message)
  claims.check now
  return claims

end BuildFarm.Bearer
