import BuildFarm.Http.Message
import BuildFarm.Services

namespace BuildFarm.Http

/-- The body of a request for a job. -/
structure JobWanted where
  kinds : List String
  arch : String
deriving DecidableEq, Repr

namespace JobWanted

structure Draft where
  kinds : Option (List String) := none
  arch : Option String := none

def shape : Json.Shape Draft JobWanted where
  expected := "struct RequestJobRequest"
  fields :=
    [.required "types" Draft.kinds (fun v d => { d with kinds := some v })
      (fun levels => Json.Reader.list levels (fun _ => Json.Reader.text)),
     .required "arch" Draft.arch (fun v d => { d with arch := some v })
      (fun _ => Json.Reader.text)]
  blank := {}
  finish d := do return ⟨← d.kinds,← d.arch⟩

def filter (w : JobWanted) : ClaimFilter := ⟨w.kinds,w.arch⟩

end JobWanted

/-- The body of a report on a claim. -/
structure Report where
  status : Option JobStatus
  result : Option Json
deriving Repr

namespace Report

structure Draft where
  status : Option (Option JobStatus) := none
  result : Option (Option Json) := none

def shape : Json.Shape Draft Report where
  expected := "struct UpdateJobRequest"
  fields :=
    [.optional "status" Draft.status (fun v d => { d with status := some v }) JobStatus.read,
     .optional "result" Draft.result (fun v d => { d with result := some v }) Json.Reader.value]
  blank := {}
  finish d := do return ⟨← d.status,← d.result⟩

end Report

/-- The limit of a body that is read as a whole. -/
def maxBodyBytes : Nat := 2097152

def notFound : Reply := .failure 404 "not_found" "not found"

def invalidToken : Reply := .failure 400 "invalid_id" "invalid dispatch token"

def unreadable (parameter : String) : Reply :=
  .plain 400 s!"Invalid URL: Invalid UTF-8 in `{parameter}`"

def bodyFault : Body.Fault → Reply
  | .tooLong => .plain 413 "Failed to buffer the request body: length limit exceeded"
  | .failed m => .plain 400 s!"Failed to buffer the request body: {m}"

/-- Reads a body of JSON. -/
def decodeBody (s : Json.Shape δ α) (bytes : Bytes) : Except Reply α :=
  if bytes.isEmpty then .error (.failure 400 "invalid_body" "request body is empty")
  else
    match Json.parse (Json.Reader.record s Json.maxLevels) (Glyph.ofBytes bytes) with
    | .ok a => .ok a
    | .error f => .error (.failure 400 "invalid_body" f.message)

/-- What is wrong with the store is not told to workers. -/
def queueFault (e : QueueError) : Reply :=
  match e with
  | .validation d => .failure 400 "validation_error" d.message
  | .invalidDependency _ => .failure 400 "invalid_dependency" e.message
  | .invalidStatus _ => .failure 400 "invalid_status" e.message
  | .notFound _ => .failure 404 "not_found" e.message
  | .unknownToken => .failure 404 "not_found" e.message
  | .claimConcluded => .failure 404 "claim_concluded" e.message
  | .invalidTransition _ _ => .failure 409 "invalid_transition" e.message
  | .store _ => .failure 500 "store_unavailable" "job store unavailable"
  | .noToken => .failure 500 "store_unavailable" "job store unavailable"

def artifactFault (e : ArtifactError) : Reply :=
  match e with
  | .alreadyExists _ _ => .failure 409 "artifact_exists" e.message
  | .notFound _ _ => notFound
  | .unconfigured => notFound
  | .io _ => .failure 500 "artifact_io" "artifact could not be stored"

def jobLocation (t : DispatchToken) : String :=
  s!"/api/worker/v1/jobs/{t.text}"

def artifactLocation (t : DispatchToken) : String :=
  jobLocation t ++ "/artifacts/"

/-- A claim as its worker sees it: under its token, without the id of the job. -/
def claimJson (c : Claim) : Json :=
  .object ([("id",c.token.toJson),("location",.text (jobLocation c.token)),
    ("artifact_location",.text (artifactLocation c.token)),("type",.text c.type.kind),
    ("args",c.args)] ++
    (match c.dynamicArgs with
      | none => []
      | some rs => [("dynamic_args",.object (rs.map (fun r => (r.1.text,r.2))))]))

end BuildFarm.Http
