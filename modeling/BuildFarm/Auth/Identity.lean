import BuildFarm.Json.Record

namespace BuildFarm

structure Identity where
  account : String
  org : Option String
  kind : Option String
  entitlements : Table String Bool
deriving DecidableEq, Repr

namespace Identity

def isEntitled (i : Identity) (name : String) : Bool :=
  (Table.find? i.entitlements name).getD false

def optionalText (s : Option String) : Json :=
  .ofOption (s.map .text)

def toJson (i : Identity) : Json :=
  .object [("account_number",.text i.account),("org_id",optionalText i.org),
    ("kind",optionalText i.kind),
    ("entitlements",.object (i.entitlements.map (fun e => (e.1,.bool e.2))))]

structure Draft where
  account : Option String := none
  org : Option (Option String) := none
  kind : Option (Option String) := none
  entitlements : Option (Table String Bool) := none

def shape : Json.Shape Draft Identity where
  expected := "struct Identity"
  fields :=
    [.required "account_number" Draft.account (fun v d => { d with account := some v })
      (fun _ => Json.Reader.text),
     .optional "org_id" Draft.org (fun v d => { d with org := some v })
      (fun _ => Json.Reader.text),
     .optional "kind" Draft.kind (fun v d => { d with kind := some v })
      (fun _ => Json.Reader.text),
     .required "entitlements" Draft.entitlements (fun v d => { d with entitlements := some v })
      (fun levels => Json.Reader.table levels (fun _ => Json.Reader.bool))]
  blank := {}
  finish d := do return ⟨← d.account,← d.org,← d.kind,← d.entitlements⟩

def read : Json.Reader Identity :=
  Json.Reader.record shape Json.maxLevels

end Identity

end BuildFarm
