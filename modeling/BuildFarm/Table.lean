namespace BuildFarm

abbrev Table (κ α : Type) := List (κ × α)

namespace Table

variable {κ α β : Type} [LT κ] [DecidableLT κ] [DecidableEq κ]

def find? (t : Table κ α) (k : κ) : Option α :=
  match t with
  | [] => none
  | (l,a) :: rest => if l = k then some a else find? rest k

def has (t : Table κ α) (k : κ) : Bool :=
  (find? t k).isSome

/-- An entry of the same key is replaced. -/
def insert (t : Table κ α) (k : κ) (a : α) : Table κ α :=
  match t with
  | [] => [(k,a)]
  | (l,b) :: rest =>
    if k < l then (k,a) :: (l,b) :: rest
    else if k = l then (k,a) :: rest
    else (l,b) :: insert rest k a

def erase (t : Table κ α) (k : κ) : Table κ α :=
  match t with
  | [] => []
  | (l,b) :: rest => if l = k then rest else (l,b) :: erase rest k

def keys (t : Table κ α) : List κ :=
  t.map Prod.fst

/-- Of neighbours with one key the last remains. -/
def lastOfEach : List (κ × α) → List (κ × α)
  | [] => []
  | [e] => [e]
  | e :: f :: rest => if e.1 = f.1 then lastOfEach (f :: rest) else e :: lastOfEach (f :: rest)

/-- Of several entries with one key the last remains. -/
def ofList (entries : List (κ × α)) : Table κ α :=
  lastOfEach (entries.mergeSort (fun e f => !decide (f.1 < e.1)))

end Table

namespace Entries

variable {κ α : Type} [DecidableEq κ]

/-- A new entry goes to the end; a later value of one key takes the place of the earlier. -/
def set (es : List (κ × α)) (k : κ) (a : α) : List (κ × α) :=
  match es with
  | [] => [(k,a)]
  | (l,b) :: rest => if l = k then (k,a) :: rest else (l,b) :: set rest k a

end Entries

namespace Sorted

variable {κ : Type} [LT κ] [DecidableLT κ] [DecidableEq κ]

def insert (k : κ) : List κ → List κ
  | [] => [k]
  | l :: rest =>
    if k < l then k :: l :: rest
    else if k = l then l :: rest
    else l :: insert k rest

def erase (k : κ) : List κ → List κ
  | [] => []
  | l :: rest => if l = k then rest else l :: erase k rest

/-- Of equal keys one remains. -/
def ofList (ks : List κ) : List κ :=
  (ks.mergeSort (fun a b => !decide (b < a))).eraseReps

end Sorted

end BuildFarm
