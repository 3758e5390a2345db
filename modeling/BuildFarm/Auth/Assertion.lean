import BuildFarm.Auth.Identity
import BuildFarm.Text.Base64
import BuildFarm.Text.Blank

namespace BuildFarm.Assertion

inductive Fault
  | encoding
  | json (message : String)
  | missingAccount
deriving DecidableEq, Repr

def Fault.message : Fault → String
  | .encoding => "identity assertion is not valid base64"
  | .json m => s!"identity assertion is not valid JSON: {m}"
  | .missingAccount => "identity assertion has an empty account number"

def present (key : String) (value : Option Json) : List (String × Json) :=
  match value with
  | some j => [(key,j)]
  | none => []

def toJson (i : Identity) : Json :=
  .object [("identity",.object
      ([("account_number",.text i.account)] ++ present "type" (i.kind.map .text) ++
        [("internal",.object (present "org_id" (i.org.map .text)))])),
    ("entitlements",.object
      (i.entitlements.map (fun e => (e.1,.object [("is_entitled",.bool e.2)]))))]

def encode (i : Identity) : String :=
  Base64.encodedText Base64.standard (Bytes.ofText (toJson i).compactText)

def entitlementShape : Json.Shape (Option Bool) Bool where
  expected := "struct EntitlementWire"
  fields := [.defaulted "is_entitled" id (fun v _ => some v) false (fun _ => Json.Reader.bool)]
  blank := none
  finish := id

def internalShape : Json.Shape (Option (Option String)) (Option String) where
  expected := "struct InternalWire"
  fields := [.defaulted "org_id" id (fun v _ => some v) none
    (fun _ => Json.Reader.optional Json.Reader.text)]
  blank := none
  finish := id

structure CallerDraft where
  account : Option String := none
  kind : Option (Option String) := none
  org : Option (Option String) := none

/-- The caller, without entitlements. -/
def callerShape : Json.Shape CallerDraft Identity where
  expected := "struct IdentityWire"
  fields :=
    [.defaulted "account_number" CallerDraft.account (fun v d => { d with account := some v }) ""
      (fun _ => Json.Reader.text),
     .defaulted "type" CallerDraft.kind (fun v d => { d with kind := some v }) none
      (fun _ => Json.Reader.optional Json.Reader.text),
     .defaulted "internal" CallerDraft.org (fun v d => { d with org := some v }) none
      (fun levels => Json.Reader.record internalShape levels)]
  blank := {}
  finish d := do return ⟨← d.account,← d.org,← d.kind,[]⟩

structure Draft where
  caller : Option Identity := none
  entitlements : Option (Table String Bool) := none

def shape : Json.Shape Draft Identity where
  expected := "struct AssertionWire"
  fields :=
    [.required "identity" Draft.caller (fun v d => { d with caller := some v })
      (fun levels => Json.Reader.record callerShape levels),
     .defaulted "entitlements" Draft.entitlements (fun v d => { d with entitlements := some v }) []
      (fun levels => Json.Reader.table levels (fun n => Json.Reader.record entitlementShape n))]
  blank := {}
  finish d := do return { ← d.caller with entitlements := ← d.entitlements }

/-- An account of blanks alone is as good as none. -/
def decode (header : String) : Except Fault Identity :=
  match Base64.decode Base64.standard (Bytes.ofText (Text.trim header)) with
  | .error _ => .error .encoding
  | .ok bytes =>
    match Json.parse (Json.Reader.record shape Json.maxLevels) (Glyph.ofBytes bytes) with
    | .error f => .error (.json f.message)
    | .ok i => if Text.allBlank i.account then .error .missingAccount else .ok i

end BuildFarm.Assertion
