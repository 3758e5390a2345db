import BuildFarm.Text.Blank
import BuildFarm.Text.Percent

namespace BuildFarm.Http

def basePath : String := "/api/worker/v1"

/-- Parameters stand as they are in the path, before percent escapes are read. -/
inductive Endpoint
  | status
  | jobs
  | job (token : List Char)
  | artifact (token name : List Char)
deriving DecidableEq, Repr

inductive Action
  | showStatus
  | requestJob
  | showJob (token : List Char)
  | concludeJob (token : List Char)
  | upload (token name : List Char)
deriving DecidableEq, Repr

namespace Endpoint

/-- The last parameter of a path must not be empty. -/
def ofSegments : List String → List (List Char) → Option Endpoint
  | ["","status"],_ => some status
  | ["","jobs"],_ => some jobs
  | ["","jobs",_],[_,_,token] => if token = [] then none else some (job token)
  | ["","jobs",_,"artifacts",_],[_,_,token,_,name] =>
    if name = [] then none else some (artifact token name)
  | _,_ => none

def ofPath? (path : List Char) : Option Endpoint := do
  let rest ← Text.dropLead? basePath.toList path
  let segments := Text.pieces '/' rest
  ofSegments (segments.map String.ofList) segments

def allowed : Endpoint → String
  | status => "GET,HEAD"
  | jobs => "POST"
  | job _ => "GET,HEAD,PATCH"
  | artifact _ _ => "PUT"

/-- What a method does here. HEAD does what GET does. -/
def action? (e : Endpoint) (method : String) : Option Action :=
  match e with
  | status => if method = "GET" ∨ method = "HEAD" then some .showStatus else none
  | jobs => if method = "POST" then some .requestJob else none
  | job token =>
    if method = "GET" ∨ method = "HEAD" then some (.showJob token)
    else if method = "PATCH" then some (.concludeJob token)
    else none
  | artifact token name => if method = "PUT" then some (.upload token name) else none

end Endpoint

/-- The text of a parameter; none if its bytes are no text. -/
def parameter? (raw : List Char) : Option String :=
  (Percent.decode (Bytes.ofText (String.ofList raw))).text?

end BuildFarm.Http
