import BuildFarm.Client.TokenSource
import BuildFarm.Http.Route
import BuildFarm.Ident
import BuildFarm.Job.Status

namespace BuildFarm.Client

inductive ClientError
  | tokenExchange (f : ExchangeFault)
  | network (f : SendFault)
  | api (status : Nat) (text : String)
  /-- An answer is not what it should be. -/
  | unreadable
  | invalidArtifactName (e : DomainError)
deriving DecidableEq, Repr

def ClientError.message : ClientError → String
  | .tokenExchange f => s!"token exchange failed: {f.message}"
  | .network f => s!"network error: {f.message}"
  | .api status text => s!"API error ({status}): {text}"
  | .unreadable => s!"parse error: {Client.unreadable}"
  | .invalidArtifactName e => s!"invalid artifact name: {e.message}"

inductive Outcome
  | finished
  | failed
deriving DecidableEq, Repr

def Outcome.status : Outcome → JobStatus
  | .finished => .finished
  | .failed => .failed

/-- A claim that the worker holds. -/
structure Handle where
  token : DispatchToken
  location : String
  artifactLocation : String
  kind : String
  args : Json
  dynamicArgs : Option (List (JobId × Json))
deriving Repr

namespace Handle

structure Draft where
  token : Option DispatchToken := none
  location : Option String := none
  artifactLocation : Option String := none
  kind : Option String := none
  args : Option Json := none
  dynamicArgs : Option (Option (List (JobId × Json))) := none

def shape : Json.Shape Draft Handle where
  expected := "a claim"
  fields :=
    [.required "id" Draft.token (fun v d => { d with token := some v })
      (fun _ => DispatchToken.read),
     .required "location" Draft.location (fun v d => { d with location := some v })
      (fun _ => Json.Reader.text),
     .required "artifact_location" Draft.artifactLocation
      (fun v d => { d with artifactLocation := some v }) (fun _ => Json.Reader.text),
     .required "type" Draft.kind (fun v d => { d with kind := some v })
      (fun _ => Json.Reader.text),
     .required "args" Draft.args (fun v d => { d with args := some v }) Json.Reader.value,
     .defaulted "dynamic_args" Draft.dynamicArgs (fun v d => { d with dynamicArgs := some v })
      none (fun levels =>
        Json.Reader.optional (Json.Reader.entries levels JobId.parse Json.Reader.value))]
  blank := {}
  finish d := do
    return ⟨← d.token,← d.location,← d.artifactLocation,← d.kind,← d.args,← d.dynamicArgs⟩

def read : Json.Reader Handle :=
  Json.Reader.record shape Json.maxLevels

end Handle

structure Worker where
  server : String
  tokens : Option TokenSource
deriving DecidableEq, Repr

namespace Worker

def withoutLastSlashes (s : String) : String :=
  String.ofList (s.toList.reverse.dropWhile (· = '/')).reverse

/-- Slashes at the end of the address of the server do not count. -/
def connect (server : String) (credential : Option Credential) : Worker :=
  ⟨withoutLastSlashes server,credential.map .ofCredential⟩

/-- Sends a request to the server, under a token if there is a source of tokens. -/
def deliver (k : Worker) (r : Unsent) (t : Transport σ) (w : σ) :
    Except ClientError Answer × Worker × σ :=
  match r.send t w with
  | (.error f,w) => (.error (.network f),k,w)
  | (.ok a,w) => (if a.isSuccess then .ok a else .error (.api a.status a.text),k,w)

/-- Without a token that it needs, a request is not sent. -/
def call (k : Worker) (r : Unsent) (t : Transport σ) (m : Moment) (w : σ) :
    Except ClientError Answer × Worker × σ :=
  match k.tokens with
  | none => k.deliver r t w
  | some source =>
    match source.token t m w with
    | (.error f,source,w) => (.error (.tokenExchange f),{ k with tokens := some source },w)
    | (.ok token,source,w) =>
      { k with tokens := some source }.deliver
        { r with authorization := some s!"Bearer {token}" } t w

def jsonRequest (method url : String) (body : Json) : Unsent where
  method := method
  url := url
  contentType := some "application/json"
  body := .ofText body.compactText

def statusRequest (k : Worker) : Unsent where
  method := "GET"
  url := k.server ++ Http.basePath ++ "/status"

def jobRequest (k : Worker) (kinds : List String) (arch : String) : Unsent :=
  jsonRequest "POST" (k.server ++ Http.basePath ++ "/jobs")
    (.object [("arch",.text arch),("types",.array (kinds.map .text))])

def canceledRequest (k : Worker) (h : Handle) : Unsent where
  method := "GET"
  url := k.server ++ h.location

def reportRequest (k : Worker) (h : Handle) (outcome : Option Outcome) (result : Option Json) :
    Unsent :=
  jsonRequest "PATCH" (k.server ++ h.location)
    (.object ((outcome.map (fun o => ("status",.text o.status.text))).toList ++
      (result.map (fun j => ("result",j))).toList))

/-- The name stands in the address as it is. -/
def uploadRequest (k : Worker) (h : Handle) (name : ArtifactName) (content : Body) : Unsent where
  method := "PUT"
  url := k.server ++ h.artifactLocation ++ name.text
  body := content

/-- Reads an answer, if there is one. -/
def reading (r : Except ClientError Answer × Worker × σ)
    (read : Answer → Except ClientError α) : Except ClientError α × Worker × σ :=
  (r.1.bind read,r.2)

def readBody (r : Json.Reader α) (a : Answer) : Except ClientError α :=
  (Json.parse r (Glyph.ofBytes a.body)).mapError (fun _ => .unreadable)

def status (k : Worker) (t : Transport σ) (m : Moment) (w : σ) :
    Except ClientError Unit × Worker × σ :=
  reading (k.call k.statusRequest t m w) (fun _ => .ok ())

/-- None when the server has no job to give. -/
def requestJob (k : Worker) (kinds : List String) (arch : String) (t : Transport σ)
    (m : Moment) (w : σ) : Except ClientError (Option Handle) × Worker × σ :=
  reading (k.call (k.jobRequest kinds arch) t m w) (fun a =>
    if a.status = 204 then .ok none else (readBody Handle.read a).map some)

structure CanceledDraft where
  canceled : Option Bool := none

def canceledShape : Json.Shape CanceledDraft Bool where
  expected := "a flag"
  fields :=
    [.required "canceled" CanceledDraft.canceled (fun v d => { d with canceled := some v })
      (fun _ => Json.Reader.bool)]
  blank := {}
  finish d := d.canceled

def canceled (k : Worker) (h : Handle) (t : Transport σ) (m : Moment) (w : σ) :
    Except ClientError Bool × Worker × σ :=
  reading (k.call (k.canceledRequest h) t m w)
    (readBody (Json.Reader.record canceledShape Json.maxLevels))

/-- Without an outcome the server takes the job as finished. -/
def report (k : Worker) (h : Handle) (outcome : Option Outcome) (result : Option Json)
    (t : Transport σ) (m : Moment) (w : σ) : Except ClientError Unit × Worker × σ :=
  reading (k.call (k.reportRequest h outcome result) t m w) (fun _ => .ok ())

/-- A name that is no artifact's is not sent. -/
def upload (k : Worker) (h : Handle) (name : String) (content : Body) (t : Transport σ)
    (m : Moment) (w : σ) : Except ClientError Unit × Worker × σ :=
  match ArtifactName.parse name with
  | .error e => (.error (.invalidArtifactName e),k,w)
  | .ok name => reading (k.call (k.uploadRequest h name content) t m w) (fun _ => .ok ())

end Worker

end BuildFarm.Client
