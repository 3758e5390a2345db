import BuildFarm.Path
import BuildFarm.Table
import BuildFarm.Text.Bytes

namespace BuildFarm

inductive IoError
  | notFound
  | exists
  | notFolder
  | isFolder
  | notEmpty
  | nameTooLong
  | notText
  | zeroInName
  | invalidArgument
  | other (message : String)
deriving DecidableEq, Repr

def IoError.message : IoError → String
  | .notFound => "No such file or directory (os error 2)"
  | .exists => "File exists (os error 17)"
  | .notFolder => "Not a directory (os error 20)"
  | .isFolder => "Is a directory (os error 21)"
  | .notEmpty => "Directory not empty (os error 39)"
  | .nameTooLong => "File name too long (os error 36)"
  | .notText => "stream did not contain valid UTF-8"
  | .zeroInName => "file name contained an unexpected NUL byte"
  | .invalidArgument => "Invalid argument (os error 22)"
  | .other m => m

inductive Node
  | folder
  | file (content : Bytes)
deriving DecidableEq, Repr

/-- A folder can be opened but not read. -/
def Node.contents : Node → Except IoError Bytes
  | .file bs => .ok bs
  | .folder => .error .isFolder

structure Disk where
  nodes : Table (List String) Node
deriving DecidableEq, Repr

namespace Disk

def empty : Disk := ⟨[]⟩

/-- The root is always a folder. -/
def node? (d : Disk) (cs : List String) : Option Node :=
  if cs = [] then some .folder else Table.find? d.nodes cs

def put (d : Disk) (cs : List String) (n : Node) : Disk :=
  ⟨Table.insert d.nodes cs n⟩

def erase (d : Disk) (cs : List String) : Disk :=
  ⟨Table.erase d.nodes cs⟩

def maxNameBytes : Nat := 255

/-- A path is shorter than this. -/
def maxPathBytes : Nat := 4096

/-- What is wrong with a path, whatever is there. -/
def objection? (p : Path) : Option IoError :=
  if p.toList.any (fun c => c.toNat = 0) then some .zeroInName
  else if maxPathBytes ≤ p.utf8ByteSize then some .nameTooLong
  else none

/-- Where a path leads: to a name in a folder, or to the folder itself. -/
structure Spot where
  folder : List String
  name : Option String
deriving DecidableEq, Repr

def Spot.names (s : Spot) : List String :=
  s.folder ++ s.name.toList

/-- From one folder into the next. -/
def enter (d : Disk) (folder : List String) (name : String) : Except IoError (List String) :=
  if name = "." then .ok folder
  else if name = ".." then .ok folder.dropLast
  else if maxNameBytes < name.utf8ByteSize then .error .nameTooLong
  else
    match d.node? (folder ++ [name]) with
    | none => .error .notFound
    | some (.file _) => .error .notFolder
    | some .folder => .ok (folder ++ [name])

/-- Walks through all names but the last. -/
def walk (d : Disk) (folder : List String) : List String → Except IoError Spot
  | [] => .ok ⟨folder,none⟩
  | [name] =>
    if name = "." then .ok ⟨folder,none⟩
    else if name = ".." then .ok ⟨folder.dropLast,none⟩
    else .ok ⟨folder,some name⟩
  | name :: rest => do walk d (← d.enter folder name) rest

def spot (d : Disk) (p : Path) : Except IoError Spot :=
  match objection? p with
  | some e => .error e
  | none => d.walk [] p.names

/-- What stands at a spot. -/
def nodeAt (d : Disk) (s : Spot) : Except IoError (Option Node) :=
  if maxNameBytes < (s.name.getD "").utf8ByteSize then .error .nameTooLong
  else .ok (d.node? s.names)

/-- What is found at the path, and the names that lead there. -/
def look (d : Disk) (p : Path) : Except IoError (List String × Node) := do
  let s ← d.spot p
  match ← d.nodeAt s with
  | none => throw .notFound
  | some .folder => return (s.names,.folder)
  | some (.file bs) => if p.asksForFolder then throw .notFolder else return (s.names,.file bs)

def isFolder (d : Disk) (p : Path) : Bool :=
  match d.look p with
  | .ok (_,.folder) => true
  | _ => false

def hasAt (d : Disk) (p : Path) : Except IoError Bool :=
  match d.look p with
  | .ok _ => .ok true
  | .error .notFound => .ok false
  | .error e => .error e

def contents (d : Disk) (p : Path) : Except IoError Bytes := do
  (← d.look p).2.contents

/-- A file that is there is replaced. -/
def save (d : Disk) (p : Path) (bs : Bytes) : Except IoError Disk := do
  let s ← d.spot p
  if s.name = none ∨ p.asksForFolder then throw .isFolder
  match ← d.nodeAt s with
  | some .folder => throw .isFolder
  | _ => return d.put s.names (.file bs)

/-- A file that is there is a fault. -/
def addFile (d : Disk) (p : Path) (bs : Bytes) : Except IoError Disk := do
  let s ← d.spot p
  if s.name ≠ none ∧ p.asksForFolder then throw .isFolder
  match ← d.nodeAt s with
  | some _ => throw .exists
  | none => return d.put s.names (.file bs)

/-- A file at the target is replaced at once. -/
def rename (d : Disk) (source target : Path) : Except IoError Disk := do
  let (names,n) ← d.look source
  let bs ← n.contents
  (d.erase names).save target bs

/-- A second name for a file. -/
def link (d : Disk) (source target : Path) : Except IoError Disk := do
  let bs ← d.contents source
  d.addFile target bs

def unlink (d : Disk) (p : Path) : Except IoError Disk := do
  match ← d.look p with
  | (_,.folder) => throw .isFolder
  | (names,.file _) => return d.erase names

/-- A folder under a new name. -/
def addFolder (d : Disk) (names : List String) : Except IoError Disk := do
  let s ← d.walk [] names
  match ← d.nodeAt s with
  | some _ => throw .exists
  | none => return d.put s.names .folder

def isFolderAt (d : Disk) (names : List String) : Bool :=
  match d.walk [] names with
  | .ok s => (d.nodeAt s).toOption = some (some .folder)
  | .error _ => false

/-- Adds folders in turn. One that is there already will do. -/
def addFolders (d : Disk) : List (List String) → Except IoError Unit × Disk
  | [] => (.ok (),d)
  | names :: rest =>
    match d.addFolder names with
    | .ok d => addFolders d rest
    | .error e =>
      if e = .exists ∧ d.isFolderAt names then addFolders d rest else (.error e,d)

/-- Goes up from the longest list of names to the first folder that is there or can be added,
then down again through those that were `missing`. -/
def addMissing (d : Disk) (missing : List (List String)) :
    List (List String) → Except IoError Unit × Disk
  | [] => d.addFolders missing
  | names :: rest =>
    match d.addFolder names with
    | .ok d => d.addFolders missing
    | .error .notFound => addMissing d (names :: missing) rest
    | .error e =>
      if e = .exists ∧ d.isFolderAt names then d.addFolders missing else (.error e,d)

/-- The path itself and what remains of it without the last name, the last two names and so
on. Single dots count in the path itself alone. -/
def lineage (p : Path) : List (List String) :=
  let names := p.names.filter (· ≠ ".")
  p.names :: ((List.range names.length).drop 1).reverse.map names.take

/-- The folder and all that lead to it. -/
def createFolders (d : Disk) (p : Path) : Except IoError Unit × Disk :=
  match objection? p with
  | some e => (.error e,d)
  | none => d.addMissing [] (lineage p)

/-- The folder with everything below it. If the way to the folder leads through what was below
it, the folder itself is out of reach and stays; and it cannot be removed from inside. -/
def removeTree (d : Disk) (p : Path) : Except IoError Unit × Disk :=
  match d.look p with
  | .error e => (.error e,d)
  | .ok (_,.file _) => (.error .notFolder,d)
  | .ok (names,.folder) =>
    let emptied : Disk := ⟨d.nodes.filter (fun e => !names.isPrefixOf e.1 || e.1 = names)⟩
    match emptied.spot p with
    | .error _ => (.ok (),emptied)
    | .ok s =>
      if s.name = none then (.error .invalidArgument,emptied) else (.ok (),emptied.erase names)

/-- Everything below a folder, each with the names that follow those of the folder. -/
def below (d : Disk) (p : Path) : Except IoError (List (List String × Node)) := do
  match ← d.look p with
  | (above,.folder) =>
    return d.nodes.filterMap (fun e =>
      if above.isPrefixOf e.1 ∧ e.1 ≠ above then some (e.1.drop above.length,e.2) else none)
  | (_,.file _) => throw .notFolder

/-- What a folder holds, by name. -/
def list (d : Disk) (p : Path) : Except IoError (List (String × Node)) := do
  return (← d.below p).filterMap (fun e =>
    match e.1 with
    | [name] => some (name,e.2)
    | _ => none)

end Disk

end BuildFarm
