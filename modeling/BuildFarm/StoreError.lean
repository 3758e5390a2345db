import BuildFarm.Job.Status

namespace BuildFarm

inductive StoreError
  | notFound (id : JobId)
  | alreadyExists (id : JobId)
  | invalidTransition (source target : JobStatus)
  | corrupt (path message : String)
  | storage (message : String)
deriving DecidableEq, Repr

def StoreError.message : StoreError → String
  | .notFound id => s!"job not found: {id.text}"
  | .alreadyExists id => s!"job already exists: {id.text}"
  | .invalidTransition source target => s!"invalid transition {source.text} -> {target.text}"
  | .corrupt path message => s!"unreadable job record {path}: {message}"
  | .storage message => s!"storage error: {message}"

end BuildFarm
