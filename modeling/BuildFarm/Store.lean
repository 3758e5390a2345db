import BuildFarm.Disk
import BuildFarm.Job.Codec

namespace BuildFarm

/-- The calls of a store. -/
inductive StoreCall
  | create
  | get
  | update
  | next
deriving DecidableEq, Repr

/-- A call that is to fail, after so many calls of its kind that are let pass. -/
structure PlannedFault where
  call : StoreCall
  error : StoreError
  skip : Nat
deriving DecidableEq, Repr

/-- A write of a record that fails: what it leaves in the temporary file, if anything. -/
structure WriteFailure where
  left : Option Bytes
  reason : IoError
deriving DecidableEq, Repr

structure Index where
  records : Table JobId Job
  pending : List JobId

namespace Index

def empty : Index := ⟨[],[]⟩

/-- A record of the same id is replaced. -/
def load (ix : Index) (j : Job) : Index where
  records := Table.insert ix.records j.id j
  pending := if j.status = .pending then Sorted.insert j.id ix.pending else ix.pending

/-- The record has become another one. -/
def replace (ix : Index) (id : JobId) (old new : Job) : Index where
  records := Table.insert ix.records id new
  pending :=
    if old.status = .pending ∧ new.status ≠ .pending then Sorted.erase id ix.pending
    else if old.status ≠ .pending ∧ new.status = .pending then Sorted.insert id ix.pending
    else ix.pending

end Index

/-- `disk` is the file system that the store sees; a store without a root leaves it alone.
`faults` and `failures` say which calls and which writes to come will fail. There is no store in a
database. -/
structure Store where
  disk : Disk
  root : Option Path
  index : Index
  faults : List PlannedFault
  failures : List (Option WriteFailure)

namespace Store

def inMemory (disk : Disk) : Store := ⟨disk,none,.empty,[],[]⟩

def recordPath (root : Path) (id : JobId) : Path :=
  root.join s!"{id.text}.json"

def tempPath (root : Path) (id : JobId) : Path :=
  root.join s!".{id.text}.json.tmp"

def isRecordName (name : String) : Bool :=
  name.toList.head? ≠ some '.' && ".json".toList.isSuffixOf name.toList

def storageError (what : String) (p : Path) (e : IoError) : StoreError :=
  .storage s!"{what} {p}: {e.message}"

def readRecord (root : Path) (name : String) (n : Node) : Except StoreError Job :=
  let path := root.join name
  match n.contents with
  | .error e => .error (storageError "read job record" path e)
  | .ok bs =>
    match Job.parse (Glyph.ofBytes bs) with
    | .ok j => .ok j
    | .error f => .error (.corrupt path f.message)

/-- The records of a folder's entries, in the order in which they are listed. -/
def loadAll (root : Path) (ix : Index) : List (String × Node) → Except StoreError Index
  | [] => .ok ix
  | (name,n) :: rest =>
    if isRecordName name then do loadAll root (ix.load (← readRecord root name n)) rest
    else loadAll root ix rest

/-- The disk may have changed even where no store is opened. -/
def openAt (root : Path) (disk : Disk) : Except StoreError Store × Disk :=
  match disk.createFolders root with
  | (.error e,disk) => (.error (storageError "create store directory" root e),disk)
  | (.ok _,disk) =>
    match disk.list root with
    | .error e => (.error (storageError "read store directory" root e),disk)
    | .ok entries =>
      match loadAll root .empty entries with
      | .error e => (.error e,disk)
      | .ok ix => (.ok ⟨disk,some root,ix,[],[]⟩,disk)

/-- The first fault planned for the call fails it or lets it pass once more. -/
def strike (call : StoreCall) : List PlannedFault → Option StoreError × List PlannedFault
  | [] => (none,[])
  | f :: fs =>
    if f.call = call then
      match f.skip with
      | 0 => (some f.error,fs)
      | n + 1 => (none,{ f with skip := n } :: fs)
    else
      let (e,fs) := strike call fs
      (e,f :: fs)

def guarded (s : Store) (call : StoreCall)
    (run : Store → Except StoreError α × Store) : Except StoreError α × Store :=
  match strike call s.faults with
  | (some e,fs) => (.error e,{ s with faults := fs })
  | (none,fs) => run { s with faults := fs }

def recordBytes (j : Job) : Bytes :=
  Bytes.ofText j.toJson.prettyText

/-- Writes the record's file. If this fails, the file is what it was. -/
def writeRecord (s : Store) (root : Path) (j : Job) : Except StoreError Unit × Store :=
  let temp := tempPath root j.id
  let path := recordPath root j.id
  match s.disk.save temp (recordBytes j) with
  | .error e => (.error (storageError "write job record" temp e),s)
  | .ok disk =>
    match disk.rename temp path with
    | .error e => (.error (storageError "commit job record" path e),{ s with disk := disk })
    | .ok disk => (.ok (),{ s with disk := disk })

def failWrite (s : Store) (root : Path) (j : Job) (f : WriteFailure) :
    Except StoreError Unit × Store :=
  let temp := tempPath root j.id
  let disk :=
    match f.left with
    | none => s.disk
    | some bs => (s.disk.save temp bs).toOption.getD s.disk
  (.error (storageError "write job record" temp f.reason),{ s with disk := disk })

def persist (s : Store) (j : Job) : Except StoreError Unit × Store :=
  match s.root with
  | none => (.ok (),s)
  | some root =>
    match s.failures with
    | [] => writeRecord s root j
    | none :: rest => writeRecord { s with failures := rest } root j
    | some f :: rest => failWrite { s with failures := rest } root j f

def find? (s : Store) (id : JobId) : Option Job :=
  Table.find? s.index.records id

def createRecord (j : Job) (s : Store) : Except StoreError Unit × Store :=
  if (s.find? j.id).isSome then (.error (.alreadyExists j.id),s)
  else
    match s.persist j with
    | (.error e,s) => (.error e,s)
    | (.ok _,s) => (.ok (),{ s with index := s.index.load j })

def create (s : Store) (j : Job) : Except StoreError Unit × Store :=
  guarded s .create (createRecord j)

def getRecord (id : JobId) (s : Store) : Except StoreError Job × Store :=
  match s.find? id with
  | some j => (.ok j,s)
  | none => (.error (.notFound id),s)

def get (s : Store) (id : JobId) : Except StoreError Job × Store :=
  guarded s .get (getRecord id)

def updateRecord (id : JobId) (changes : List Job.Change) (s : Store) :
    Except StoreError Job × Store :=
  match s.find? id with
  | none => (.error (.notFound id),s)
  | some old =>
    match old.changeAll changes with
    | .error e => (.error e,s)
    | .ok new =>
      match s.persist new with
      | (.error e,s) => (.error e,s)
      | (.ok _,s) => (.ok new,{ s with index := s.index.replace id old new })

/-- All changes are made, or the record stays as it is. -/
def update (s : Store) (id : JobId) (changes : List Job.Change) : Except StoreError Job × Store :=
  guarded s .update (updateRecord id changes)

def dependenciesFinished (s : Store) (j : Job) : Bool :=
  j.dependencies.all (fun d =>
    match s.find? d with
    | some r => r.status = .finished
    | none => false)

/-- The waiting job of the least id that the filter accepts and whose dependencies have
all ended well. A job that waits for itself is passed over; where each record is locked while it is
looked at, the search would not come back from it. No such job can be put in with a queue. -/
def candidate? (s : Store) (f : ClaimFilter) : Option (JobId × Job) :=
  s.index.pending.findSome? (fun id =>
    match s.find? id with
    | some j => if f.accepts j && s.dependenciesFinished j then some (id,j) else none
    | none => none)

def claim (f : ClaimFilter) (now : Instant) (s : Store) :
    Except StoreError (Option Job) × Store :=
  match s.candidate? f with
  | none => (.ok none,s)
  | some (id,old) =>
    match old.markRunning now with
    | .error e => (.error e,s)
    | .ok new =>
      match s.persist new with
      | (.error e,s) => (.error e,s)
      | (.ok _,s) =>
        (.ok (some new),{ s with index := ⟨Table.insert s.index.records id new,
          Sorted.erase id s.index.pending⟩ })

/-- Claims the oldest job that can be claimed. -/
def next (s : Store) (f : ClaimFilter) (now : Instant) : Except StoreError (Option Job) × Store :=
  guarded s .next (claim f now)

end Store

end BuildFarm
