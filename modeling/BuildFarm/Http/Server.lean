import BuildFarm.Http.Gate
import BuildFarm.Http.Route
import BuildFarm.Http.Wire

namespace BuildFarm.Http

/-- What the outside brings to one request: the clocks, and numbers drawn for it. -/
structure Occasion where
  reading : Reading
  tokens : List DispatchToken
  upload : Uuid

namespace Server

/-- The body as a whole, or the reply that refuses it. -/
def takeBody (s : Services) (body : Body) : Except Reply Bytes × Services :=
  match body.collect maxBodyBytes s.disk with
  | (.ok bytes,disk) => (.ok bytes,s.withDisk disk)
  | (.error f,disk) => (.error (bodyFault f),s.withDisk disk)

def showStatus : Reply :=
  .json 200 (.object [("status",.text "OK")])

def emptyObject : Reply := .json 200 (.object [])

def requestJob (s : Services) (o : Occasion) (body : Body) : Reply × Services :=
  match takeBody s body with
  | (.error reply,s) => (reply,s)
  | (.ok bytes,s) =>
    match decodeBody JobWanted.shape bytes with
    | .error reply => (reply,s)
    | .ok wanted =>
      match s.queue.request o.reading o.tokens wanted.filter with
      | (.error e,q) => (queueFault e,{ s with queue := q })
      | (.ok none,q) => (.empty 204,{ s with queue := q })
      | (.ok (some c),q) => (.json 201 (claimJson c),{ s with queue := q })

def tokenOf (raw : List Char) : Except Reply DispatchToken :=
  match parameter? raw with
  | none => .error (unreadable "token")
  | some text => (DispatchToken.parse text).mapError (fun _ => invalidToken)

def showJob (s : Services) (token : List Char) : Reply × Services :=
  match tokenOf token with
  | .error reply => (reply,s)
  | .ok t =>
    match s.queue.isCanceled t with
    | (.error e,q) => (queueFault e,{ s with queue := q })
    | (.ok b,q) => (.json 200 (.object [("canceled",.bool b)]),{ s with queue := q })

/-- The body is taken before the token is looked at, unless the token is no text at all. -/
def concludeJob (s : Services) (o : Occasion) (token : List Char) (body : Body) :
    Reply × Services :=
  match parameter? token with
  | none => (unreadable "token",s)
  | some _ =>
    match takeBody s body with
    | (.error reply,s) => (reply,s)
    | (.ok bytes,s) =>
      match tokenOf token with
      | .error reply => (reply,s)
      | .ok t =>
        match decodeBody Report.shape bytes with
        | .error reply => (reply,s)
        | .ok report =>
          match s.queue.conclude o.reading t report.status report.result with
          | (.error e,q) => (queueFault e,{ s with queue := q })
          | (.ok _,q) => (emptyObject,{ s with queue := q })

def store (s : Services) (o : Occasion) (t : DispatchToken) (name : String)
    (body : Body) : Reply × Services :=
  match ArtifactName.parse name with
  | .error e => (.failure 400 "invalid_artifact_name" e.message,s)
  | .ok name =>
    match s.queue.liveClaim t with
    | .error e => (queueFault e,s)
    | .ok job =>
      match s.artifacts.put s.disk o.upload job name body with
      | (.ok _,disk) => (emptyObject,s.withDisk disk)
      | (.error e,disk) => (artifactFault e,s.withDisk disk)

/-- The body is taken only under a live claim. -/
def upload (s : Services) (o : Occasion) (token name : List Char) (body : Body) :
    Reply × Services :=
  match parameter? token,parameter? name with
  | none,_ => (unreadable "token",s)
  | some _,none => (unreadable "name",s)
  | some _,some name =>
    match tokenOf token with
    | .error reply => (reply,s)
    | .ok t => store s o t name body

def perform (s : Services) (o : Occasion) (body : Body) : Action → Reply × Services
  | .showStatus => (showStatus,s)
  | .requestJob => requestJob s o body
  | .showJob token => showJob s token
  | .concludeJob token => concludeJob s o token body
  | .upload token name => upload s o token name body

/-- A request that is not let through gets the reply of a path that is not there. The
methods of a path are told even then, and HEAD gets no body where GET is allowed. -/
def handle (a : Access) (s : Services) (o : Occasion) (r : Request) : Reply × Services :=
  match Endpoint.ofPath? r.path with
  | none => (notFound.sized,s)
  | some e =>
    match e.action? r.method with
    | none =>
      let reply := if a.admits o.reading.now r then .empty 405 else notFound
      ((reply.sized).allowing e.allowed,s)
    | some action =>
      let (reply,s) :=
        if a.admits o.reading.now r then perform s o r.body action else (notFound,s)
      (if r.method = "HEAD" then reply.sized.headOnly else reply.sized,s)

end Server

end BuildFarm.Http
