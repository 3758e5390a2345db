import BuildFarm.Text.Blank
import BuildFarm.Text.Bytes
import BuildFarm.Text.Hex

namespace BuildFarm

/-- How many identifiers there are: as many as there are numbers of 32 digits. -/
def Uuid.count : Nat := 0x100000000000000000000000000000000

structure Uuid where
  value : Fin Uuid.count
deriving DecidableEq, Repr, Hashable

namespace Uuid

def ofNat (n : Nat) : Uuid :=
  ⟨⟨n % count,Nat.mod_lt n (by decide)⟩⟩

def zero : Uuid := ofNat 0

/-- Groups of digits, parted by hyphens. -/
def grouped (ds : List Char) : List Char :=
  ds.take 8 ++ '-' :: (ds.drop 8).take 4 ++ '-' :: (ds.drop 12).take 4 ++
    '-' :: (ds.drop 16).take 4 ++ '-' :: ds.drop 20

def render (u : Uuid) : List Char :=
  grouped (Text.hexDigits 32 u.value.val)

def text (u : Uuid) : String :=
  String.ofList u.render

inductive Fault
  | length (bytes : Nat)
  | character (c : Char) (offset : Nat)
  | groups (count : Nat)
  | group (index : Nat) (expected : Nat) (found : Nat)
deriving DecidableEq, Repr

def Fault.message : Fault → String
  | .length n => s!"invalid length: found {n}"
  | .character c offset => s!"invalid character: found `{c}` at {offset}"
  | .groups n => s!"invalid group count: expected 5, found {n}"
  | .group i expected found =>
    s!"invalid group length in group {i}: expected {expected}, found {found}"

def urn : List Char := ['u','r','n',':','u','u','i','d',':']

def byteLength (cs : List Char) : Nat :=
  cs.foldr (fun c n => c.utf8Size + n) 0

/-- What stands between braces or after the name of the scheme, and how many bytes stand
in front of it. -/
def enclosed? (cs : List Char) : Option (List Char × Nat) :=
  if (cs.take 9).map Char.toLower = urn then some (cs.drop 9,9)
  else
    match cs with
    | '{' :: rest => if rest.getLast? = some '}' then some (rest.dropLast,1) else none
    | _ => none

/-- A text of which the length says how it is to be read: `inner` are its digits and
hyphens, of `bytes` bytes, behind `offset` others. -/
structure Form where
  inner : List Char
  bytes : Nat
  offset : Nat

/-- A text of 32 or 36 bytes is read as it stands. One of the lengths 38 and 45 is read as
if nothing enclosed it, when it has the form of that length. -/
def form (cs : List Char) : Form :=
  let bytes := byteLength cs
  if bytes = 32 ∨ bytes = 36 then ⟨cs,bytes,0⟩
  else
    match enclosed? cs with
    | none => ⟨cs,bytes,0⟩
    | some (inner,offset) =>
      if (bytes = 38 ∧ offset = 1) ∨ (bytes = 45 ∧ offset = 9) then ⟨inner,36,0⟩
      else ⟨inner,bytes,offset⟩

def hexValue (cs : List Char) : Option Nat :=
  cs.foldl (fun n c => do return (← n) * 16 + (← Text.hexValue? c)) (some 0)

/-- The first character that is neither a digit nor a hyphen, with its place. -/
def odd? (offset : Nat) : List Char → Option Fault
  | [] => none
  | c :: cs =>
    if c = '-' ∨ (Text.hexValue? c).isSome then odd? (offset + 1) cs
    else some (.character c offset)

def groupLengths : List Nat := [8,4,4,4,12]

/-- The first group of a wrong length. -/
def oddGroup? (index : Nat) : List Nat → List (List Char) → Option Fault
  | n :: ns,g :: gs =>
    if g.length = n then oddGroup? (index + 1) ns gs else some (.group index n g.length)
  | _,_ => none

/-- Why a text that is not too long spells no identifier. The length of the last group
counts whatever follows the first four groups. -/
def Form.fault (f : Form) : Fault :=
  match odd? f.offset f.inner with
  | some fault => fault
  | none =>
    let groups := Text.pieces '-' f.inner
    if groups.length = 1 ∧ f.offset = 0 ∧ f.bytes ≠ 36 then .length f.bytes
    else if groups.length ≠ 5 then .groups groups.length
    else
      match oddGroup? 0 (groupLengths.take 4) groups with
      | some fault => fault
      | none => .group 4 12 (f.bytes - 24)

/-- The longest form has 45 bytes. -/
def parse (s : String) : Except Fault Uuid :=
  let cs := s.toList
  let whole := byteLength cs
  let f := form cs
  let groups := Text.pieces '-' f.inner
  let formed :=
    (f.offset = 0 ∧ groups.map List.length = [32]) ∨ groups.map List.length = groupLengths
  match (if formed then hexValue groups.flatten else none) with
  | some n => .ok (ofNat n)
  | none => .error (if 45 < whole then .length whole else f.fault)

instance : LT Uuid := ⟨fun a b => a.value < b.value⟩

instance : DecidableLT Uuid := fun a b => inferInstanceAs (Decidable (a.value < b.value))

end Uuid

end BuildFarm
