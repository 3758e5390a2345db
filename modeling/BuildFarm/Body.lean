import BuildFarm.Disk

namespace BuildFarm

inductive Chunk
  | bytes (bs : Bytes)
  /-- Another writer writes a file before the next chunk; where it cannot, the stream fails. -/
  | written (p : Path) (content : Bytes)
deriving DecidableEq, Repr

structure Body where
  chunks : List Chunk
  failure : Option String
deriving DecidableEq, Repr

namespace Body

def empty : Body := ⟨[],none⟩

def ofBytes (bs : Bytes) : Body := ⟨[.bytes bs],none⟩

def ofText (s : String) : Body := ofBytes (Bytes.ofText s)

/-- What the chunks bring, if no chunk fails. -/
def content (b : Body) : Bytes :=
  b.chunks.flatMap (fun c =>
    match c with
    | .bytes bs => bs
    | .written _ _ => [])

inductive Fault
  | tooLong
  | failed (message : String)
deriving DecidableEq, Repr

def collectFrom (limit : Nat) (failure : Option String) (disk : Disk)
    (taken : List Bytes) (size : Nat) : List Chunk → Except Fault Bytes × Disk
  | [] =>
    match failure with
    | some m => (.error (.failed m),disk)
    | none => (.ok taken.reverse.flatten,disk)
  | .bytes bs :: rest =>
    if limit < size + bs.length then (.error .tooLong,disk)
    else collectFrom limit failure disk (bs :: taken) (size + bs.length) rest
  | .written p bs :: rest =>
    match disk.save p bs with
    | .ok disk => collectFrom limit failure disk taken size rest
    | .error e => (.error (.failed e.message),disk)

/-- The whole body, if it is no longer than the limit. -/
def collect (limit : Nat) (b : Body) (disk : Disk) : Except Fault Bytes × Disk :=
  collectFrom limit b.failure disk [] 0 b.chunks

end Body

end BuildFarm
