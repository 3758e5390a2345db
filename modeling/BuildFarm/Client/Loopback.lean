import BuildFarm.Client.Worker
import BuildFarm.Http.Server

namespace BuildFarm.Client

/-- A sent request as it arrives. -/
def Sent.arrived (s : Sent) : Http.Request where
  method := s.method
  target := String.ofList s.url.target
  headers := s.authorization.map (fun v => ("authorization",Bytes.ofText v)) ++
    (s.contentType.map (fun v => ("content-type",Bytes.ofText v))).toList
  body := s.body

/-- A reply as the worker sees it. -/
def Answer.ofReply (r : Http.Reply) : Answer where
  status := r.status
  contentType := (r.headers.find? (fun h => h.1 = "content-type")).map Prod.snd
  body := Bytes.ofText r.body

/-- Carries every request to the services of one server. -/
def loopback (a : Http.Access) (o : Http.Occasion) : Transport Services := fun sent s =>
  let (reply,s) := Http.Server.handle a s o sent.arrived
  (some (.ofReply reply),s)

end BuildFarm.Client
