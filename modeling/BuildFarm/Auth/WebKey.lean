import BuildFarm.Json.Record

namespace BuildFarm.WebKey

open Json (Cause Found)

/-- The entries of an object as they are written. -/
abbrev Entries := List (String × Json)

def found : Json → Found
  | .null => .null
  | .bool b => .bool b
  | .int n => .int n
  | .float x => .float x
  | .text s => .text s
  | .array _ => .sequence
  | .object _ => .map

def text : Json → Except Cause Unit
  | .text _ => .ok ()
  | j => .error (.mismatch (found j) "a string")

def texts : Json → Except Cause Unit
  | .array items => items.forM text
  | j => .error (.mismatch (found j) "a sequence")

def known (words : List String) (s : String) : Except Cause Unit :=
  if s ∈ words then .ok () else .error (.unknownVariant s words)

/-- One of several words: as a text, or as the only key of an object. The value of the key
is null or an empty object. -/
def word (words : List String) : Json → Except Cause Unit
  | .text s => known words s
  | .object [(s,j)] => do
    known words s
    match j with
    | .null => .ok ()
    | .object [] => .ok ()
    | j => .error (.mismatch (found j) "unit")
  | .object _ => .error (.rejected "invalid value: map, expected map with a single key")
  | j => .error (.mismatch (found j) "string or map")

def algorithms : List String :=
  ["HS256","HS384","HS512","ES256","ES384","RS256","RS384","RS512","PS256","PS384","PS512",
    "EdDSA","RSA1_5","RSA-OAEP","RSA-OAEP-256"]

/-- The parameters of any key; each may be left out or null. -/
def parameters : List (String × (Json → Except Cause Unit)) :=
  [("use",text),("key_ops",texts),("alg",word algorithms),("kid",text),("x5u",text),
    ("x5c",texts),("x5t",text),("x5t#S256",text)]

/-- The first parameter that is of the wrong kind or comes a second time. -/
def checkParameters (seen : List String) : Entries → Except Cause Unit
  | [] => .ok ()
  | (k,j) :: rest =>
    match Table.find? parameters k with
    | none => checkParameters seen rest
    | some check =>
      if k ∈ seen then .error (.duplicateField k)
      else
        match j with
        | .null => checkParameters (k :: seen) rest
        | j => do
          check j
          checkParameters (k :: seen) rest

inductive Kind
  | text
  | word (words : List String)

/-- Inside a family the object form of a word takes null alone. -/
def Kind.fits : Kind → Json → Bool
  | .text,.text _ => true
  | .word words,.text s => words.contains s
  | .word words,.object [(s,.null)] => words.contains s
  | _,_ => false

def curves : Kind :=
  .word ["P-256","P-384","P-521","Ed25519"]

/-- What the keys of each family must have. -/
def families : List (List (String × Kind)) :=
  [[("kty",.word ["EC"]),("crv",curves),("x",.text),("y",.text)],
    [("kty",.word ["RSA"]),("n",.text),("e",.text)],
    [("kty",.word ["oct"]),("k",.text)],
    [("kty",.word ["OKP"]),("crv",curves),("x",.text)]]

/-- A member of that name and kind is there, and only one. -/
def hasOne (entries : Entries) (name : String) (kind : Kind) : Bool :=
  match entries.filter (fun e => e.1 = name) with
  | [(_,j)] => kind.fits j
  | _ => false

def inFamily (entries : Entries) (family : List (String × Kind)) : Bool :=
  family.all (fun p => hasOne entries p.1 p.2)

def check (entries : Entries) : Except Cause Unit := do
  checkParameters [] entries
  if families.any (inFamily entries) then .ok ()
  else .error (.rejected "data did not match any variant of untagged enum AlgorithmParameters")

/-- A fault of the description is told behind its closing brace. -/
def read (levels : Nat) : Json.Reader Unit := do
  match ← Json.Reader.next with
  | some (.char '{') => do
    let entries ← Json.Reader.opened levels (fun n => Json.Reader.members (Json.Reader.content n))
    match check entries with
    | .ok _ => return ()
    | .error cause => Json.Reader.fail cause
  | _ => Json.Reader.mismatch "struct Jwk"

end BuildFarm.WebKey
