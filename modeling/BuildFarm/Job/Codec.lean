import BuildFarm.Job.Record
import BuildFarm.Time.Rfc3339

namespace BuildFarm

namespace Job

def optionalTime (t : Option Instant) : Json :=
  .ofOption (t.map (fun t => .text (String.ofList (Rfc3339.render t))))

def toJson (j : Job) : Json :=
  .object [("id",j.id.toJson),("job_type",j.type.toJson),("args",j.args),
    ("dependencies",.array (j.dependencies.map JobId.toJson)),("status",j.status.toJson),
    ("canceled",.bool j.canceled),("result",.ofOption j.result),
    ("queued_at",optionalTime (some j.queued)),("started_at",optionalTime j.started),
    ("finished_at",optionalTime j.finished)]

def time : Json.Reader Instant :=
  Json.Reader.parsed "an RFC 3339 formatted date and time string"
    (fun s => (Rfc3339.parse s).mapError Rfc3339.Fault.message)

structure Draft where
  id : Option JobId := none
  type : Option JobType := none
  args : Option Json := none
  dependencies : Option (List JobId) := none
  status : Option JobStatus := none
  canceled : Option Bool := none
  result : Option (Option Json) := none
  queued : Option Instant := none
  started : Option (Option Instant) := none
  finished : Option (Option Instant) := none

def shape : Json.Shape Draft Job where
  expected := "struct Job"
  fields :=
    [.required "id" Draft.id (fun v d => { d with id := some v }) (fun _ => JobId.read),
     .required "job_type" Draft.type (fun v d => { d with type := some v }) JobType.read,
     .required "args" Draft.args (fun v d => { d with args := some v }) Json.Reader.value,
     .required "dependencies" Draft.dependencies (fun v d => { d with dependencies := some v })
      (fun levels => Json.Reader.list levels (fun _ => JobId.read)),
     .required "status" Draft.status (fun v d => { d with status := some v }) JobStatus.read,
     .required "canceled" Draft.canceled (fun v d => { d with canceled := some v })
      (fun _ => Json.Reader.bool),
     .optional "result" Draft.result (fun v d => { d with result := some v }) Json.Reader.value,
     .required "queued_at" Draft.queued (fun v d => { d with queued := some v }) (fun _ => time),
     .optional "started_at" Draft.started (fun v d => { d with started := some v })
      (fun _ => time),
     .optional "finished_at" Draft.finished (fun v d => { d with finished := some v })
      (fun _ => time)]
  blank := {}
  finish d := do
    return ⟨← d.id,← d.type,← d.args,← d.dependencies,← d.status,← d.canceled,← d.result,
      ← d.queued,← d.started,← d.finished⟩

def read (levels : Nat) : Json.Reader Job :=
  Json.Reader.record shape levels

/-- The record that a file holds. -/
def parse (text : List Glyph) : Except Json.Fault Job :=
  Json.parse (read Json.maxLevels) text

end Job

end BuildFarm
