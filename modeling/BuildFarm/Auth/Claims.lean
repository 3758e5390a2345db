import BuildFarm.Auth.Identity
import BuildFarm.Time

namespace BuildFarm

structure Claims where
  subject : String
  account : String
  org : Option String
  issued : Int
  expires : Int
deriving DecidableEq, Repr

inductive TokenFault
  | expired
  | notYetValid
  | window
  | malformed (message : String)
deriving DecidableEq, Repr

def TokenFault.message : TokenFault → String
  | .expired => "token has expired"
  | .notYetValid => "token not yet valid (issued_at is in the future)"
  | .window => "invalid token time window (expires_at <= issued_at)"
  | .malformed m => s!"token could not be decoded: {m}"

namespace Claims

def issuedAt (c : Claims) : Option Instant := Instant.ofSeconds? c.issued

def expiresAt (c : Claims) : Option Instant := Instant.ofSeconds? c.expires

def check (c : Claims) (now : Instant) : Except TokenFault Unit :=
  match c.issuedAt,c.expiresAt with
  | some issued,some expires =>
    if expires.le issued then .error .window
    else if now.lt issued then .error .notYetValid
    else if expires.le now then .error .expired
    else .ok ()
  | _,_ => .error .window

def identity (c : Claims) : Identity :=
  ⟨c.account,c.org,some "Bearer",[]⟩

def toJson (c : Claims) : Json :=
  .object ([("sub",.text c.subject),("account_number",.text c.account)] ++
    (match c.org with
      | some o => [("org_id",.text o)]
      | none => []) ++
    [("iat",.int c.issued),("exp",.int c.expires)])

structure Draft where
  subject : Option String := none
  account : Option String := none
  org : Option (Option String) := none
  issued : Option Int := none
  expires : Option Int := none

def shape : Json.Shape Draft Claims where
  expected := "struct BearerClaims"
  fields :=
    [.required "sub" Draft.subject (fun v d => { d with subject := some v })
      (fun _ => Json.Reader.text),
     .required "account_number" Draft.account (fun v d => { d with account := some v })
      (fun _ => Json.Reader.text),
     .defaulted "org_id" Draft.org (fun v d => { d with org := some v }) none
      (fun _ => Json.Reader.optional Json.Reader.text),
     .required "iat" Draft.issued (fun v d => { d with issued := some v })
      (fun _ => Json.Reader.integer),
     .required "exp" Draft.expires (fun v d => { d with expires := some v })
      (fun _ => Json.Reader.integer)]
  blank := {}
  finish d := do return ⟨← d.subject,← d.account,← d.org,← d.issued,← d.expires⟩

def read : Json.Reader Claims :=
  Json.Reader.record shape Json.maxLevels

end Claims

end BuildFarm
