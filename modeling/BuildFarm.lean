import BuildFarm.Client.Loopback
import BuildFarm.Proofs.Table
import BuildFarm.Proofs.Queue.Effects
import BuildFarm.Proofs.Queue.Records
import BuildFarm.Proofs.Queue.Dependencies
import BuildFarm.Proofs.Queue.Tokens
import BuildFarm.Proofs.Queue.Conclusions
import BuildFarm.Proofs.Json.Reading
import BuildFarm.Proofs.Json.Literals
import BuildFarm.Proofs.Json.Printed
import BuildFarm.Proofs.Json.Record
import BuildFarm.Proofs.Path
import BuildFarm.Proofs.Uuid
import BuildFarm.Proofs.Job.Codec
import BuildFarm.Proofs.Disk
import BuildFarm.Proofs.Store.Mirror
import BuildFarm.Proofs.Store.Opening
import BuildFarm.Proofs.Store.Claims
import BuildFarm.Proofs.Time.Rfc3339
import BuildFarm.Proofs.Job.Sound
import BuildFarm.Proofs.Store.Restarts
import BuildFarm.Proofs.Queue.Restarts
import BuildFarm.Proofs.Queue.Reopening
import BuildFarm.Proofs.Http.Gate
import BuildFarm.Proofs.Http.Rejections
import BuildFarm.Proofs.Disk.Folders
import BuildFarm.Proofs.Disk.Names
import BuildFarm.Proofs.Artifacts.Upload
import BuildFarm.Proofs.Artifacts.WriteOnce
import BuildFarm.Proofs.Client.Uploads
import BuildFarm.Proofs.Http.Secrecy
import BuildFarm.Proofs.Registry.Log
import BuildFarm.Proofs.Queue.Cancellation
import BuildFarm.Proofs.Http.Failures
import BuildFarm.Proofs.Client.Remote
import BuildFarm.Proofs.Disk.Interchangeable
import BuildFarm.Proofs.Job.LifeCycle
import BuildFarm.Proofs.Queue.Answers
import BuildFarm.Proofs.Store.Crashes
import BuildFarm.Proofs.Store.LifeCycle
import BuildFarm.Proofs.Queue.Advisory
import BuildFarm.Proofs.Queue.Atomicity
import BuildFarm.Proofs.Queue.Enqueueing
import BuildFarm.Proofs.Queue.Ancestry
import BuildFarm.Proofs.Time.Exact
import BuildFarm.Proofs.Auth.Freshness
import BuildFarm.Proofs.Client.Reuse
import BuildFarm.Proofs.Artifacts.Confined
import BuildFarm.Proofs.Http.Frozen
import BuildFarm.Proofs.Job.RoundTrip
import BuildFarm.Proofs.Auth.Assertion
import BuildFarm.Proofs.Http.Reports
import BuildFarm.Proofs.Client.Delivery
import BuildFarm.Proofs.Auth.Deadline
import BuildFarm.Proofs.Auth.Bearer
import BuildFarm.Proofs.Text.Base64.Canonical
import BuildFarm.Proofs.Json.Passing
import BuildFarm.Proofs.Store.Listing
import BuildFarm.Proofs.Job.Type
import BuildFarm.Proofs.Http.Accounts
import BuildFarm.Proofs.Store.Exactness
import BuildFarm.Proofs.Artifacts.Apart
