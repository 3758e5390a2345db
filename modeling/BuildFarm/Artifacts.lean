import BuildFarm.Body
import BuildFarm.Ident

namespace BuildFarm

inductive ArtifactError
  | alreadyExists (job : JobId) (name : ArtifactName)
  | notFound (job : JobId) (name : ArtifactName)
  | unconfigured
  | io (e : IoError)
deriving DecidableEq, Repr

def ArtifactError.message : ArtifactError → String
  | .alreadyExists job name => s!"artifact '{name.text}' already exists for job {job.text}"
  | .notFound job name => s!"artifact '{name.text}' not found for job {job.text}"
  | .unconfigured => "artifact storage is not configured"
  | .io e => s!"artifact io error: {e.message}"

/-- Without a root uploads are taken and thrown away. -/
structure Artifacts where
  root : Option Path
deriving DecidableEq, Repr

namespace Artifacts

def isConfigured (a : Artifacts) : Bool :=
  a.root.isSome

def jobFolder (root : Path) (job : JobId) : Path :=
  root.join job.text

def path (root : Path) (job : JobId) (name : ArtifactName) : Path :=
  (jobFolder root job).join name.text

def uploadPath (root : Path) (job : JobId) (upload : Uuid) : Path :=
  (jobFolder root job).join s!".upload-{upload.text}"

/-- The bytes of a stream go to the file as they come, if there is one. -/
def receive (file : Option Path) (failure : Option String) (disk : Disk)
    (received : Bytes) : List Chunk → Except IoError Nat × Disk
  | [] =>
    match failure with
    | some m => (.error (.other m),disk)
    | none => (.ok received.length,disk)
  | .written p bs :: rest =>
    match disk.save p bs with
    | .ok disk => receive file failure disk received rest
    | .error e => (.error (.other e.message),disk)
  | .bytes bs :: rest =>
    let received := received ++ bs
    match file with
    | none => receive file failure disk received rest
    | some temp =>
      match disk.save temp received with
      | .ok disk => receive file failure disk received rest
      | .error e => (.error e,disk)

def discard (disk : Disk) (p : Path) : Disk :=
  (disk.unlink p).toOption.getD disk

/-- The complete upload gets its name, and the temporary file is removed. -/
def publish (disk : Disk) (temp target : Path) : Except IoError Unit × Disk :=
  match disk.link temp target with
  | .ok disk => (.ok (),discard disk temp)
  | .error e => (.error e,discard disk temp)

/-- Another writer may have given the name meanwhile. -/
def upload (disk : Disk) (temp target : Path) (taken : ArtifactError) (body : Body) :
    Except ArtifactError Nat × Disk :=
  match disk.addFile temp [] with
  | .error e => (.error (.io e),discard disk temp)
  | .ok disk =>
    match receive (some temp) body.failure disk [] body.chunks with
    | (.error e,disk) => (.error (.io e),discard disk temp)
    | (.ok n,disk) =>
      match publish disk temp target with
      | (.ok _,disk) => (.ok n,disk)
      | (.error .exists,disk) => (.error taken,disk)
      | (.error e,disk) => (.error (.io e),disk)

/-- Stores an upload and tells its length. The temporary file is named after a number that
is drawn for it. -/
def put (a : Artifacts) (disk : Disk) (drawn : Uuid) (job : JobId) (name : ArtifactName)
    (body : Body) : Except ArtifactError Nat × Disk :=
  match a.root with
  | none =>
    match receive none body.failure disk [] body.chunks with
    | (.ok n,disk) => (.ok n,disk)
    | (.error e,disk) => (.error (.io e),disk)
  | some root =>
    match disk.createFolders (jobFolder root job) with
    | (.error e,disk) => (.error (.io e),disk)
    | (.ok _,disk) =>
      match disk.hasAt (path root job name) with
      | .error e => (.error (.io e),disk)
      | .ok true => (.error (.alreadyExists job name),disk)
      | .ok false =>
        upload disk (uploadPath root job drawn) (path root job name) (.alreadyExists job name) body

def resolve (a : Artifacts) (disk : Disk) (job : JobId) (name : ArtifactName) :
    Except ArtifactError Path :=
  match a.root with
  | none => .error .unconfigured
  | some root =>
    match disk.hasAt (path root job name) with
    | .error e => .error (.io e)
    | .ok true => .ok (path root job name)
    | .ok false => .error (.notFound job name)

/-- Whatever has the name of the artifact can be opened. -/
def openNamed (a : Artifacts) (disk : Disk) (job : JobId) (name : ArtifactName) :
    Except ArtifactError Node := do
  let p ← a.resolve disk job name
  match disk.look p with
  | .ok (_,n) => return n
  | .error e => throw (.io e)

/-- A job without a folder has nothing to delete. -/
def delete (a : Artifacts) (disk : Disk) (job : JobId) : Except ArtifactError Unit × Disk :=
  match a.root with
  | none => (.error .unconfigured,disk)
  | some root =>
    match disk.removeTree (jobFolder root job) with
    | (.ok _,disk) => (.ok (),disk)
    | (.error .notFound,disk) => (.ok (),disk)
    | (.error e,disk) => (.error (.io e),disk)

end Artifacts

end BuildFarm
