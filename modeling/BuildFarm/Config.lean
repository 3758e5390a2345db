import BuildFarm.SocketAddress
import BuildFarm.Text.Blank

namespace BuildFarm

inductive StoreChoice
  | memory
  | filesystem (root : String)
deriving DecidableEq, Repr

structure Config where
  listen : SocketAddress
  store : StoreChoice
  artifacts : Option String
  allowed : List String
  secret : Option String
deriving DecidableEq, Repr

structure ConfigFault where
  setting : String
  message : String
deriving DecidableEq, Repr

def ConfigFault.text (f : ConfigFault) : String :=
  s!"invalid {f.setting}: {f.message}"

namespace Config

def defaultListen : SocketAddress := .v4 [0,0,0,0] 8700

def setting (lookup : String → Option String) (key : String) : Option String :=
  match lookup key with
  | none => none
  | some v =>
    let v := Text.trim v
    if v = "" then none else some v

/-- The accounts of a list with commas; blank pieces are left out. -/
def accounts (list : String) : List String :=
  ((Text.pieces ',' list.toList).map (fun p => Text.trim (String.ofList p))).filter (· ≠ "")

def listenOf (value : Option String) : Except ConfigFault SocketAddress :=
  match value with
  | none => .ok defaultListen
  | some v =>
    match SocketAddress.parse? v with
    | some a => .ok a
    | none => .error ⟨"KILN_LISTEN_ADDR","invalid socket address syntax"⟩

def storeOf (value folder : Option String) : Except ConfigFault StoreChoice :=
  let name := value.getD "local"
  if name = "local" then .ok (folder.elim .memory .filesystem)
  else .error ⟨"KILN_STORE",s!"unsupported store '{name}'"⟩

def read (lookup : String → Option String) : Except ConfigFault Config := do
  let listen ← listenOf (setting lookup "KILN_LISTEN_ADDR")
  let store ← storeOf (setting lookup "KILN_STORE") (setting lookup "KILN_STATE_DIR")
  return {
    listen := listen
    store := store
    artifacts := setting lookup "KILN_ARTIFACTS_DIR"
    allowed := ((setting lookup "KILN_ALLOWED_ACCOUNTS").map accounts).getD []
    secret := setting lookup "KILN_JWT_SECRET" }

end Config

end BuildFarm
