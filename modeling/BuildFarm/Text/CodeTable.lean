import BuildFarm.Text.Blank
import BuildFarm.Text.Hex

namespace BuildFarm.Text

structure CodeRow where
  first : Nat
  last : Nat
  step : Nat
  image : List Nat
deriving DecidableEq, Repr

namespace CodeRow

def number (cs : List Char) : Nat :=
  cs.foldl (fun n c => n * 16 + (hexValue? c).getD 0) 0

def ofKeys (image : List Nat) (keys : List Char) : CodeRow :=
  match pieces '~' keys with
  | [a,b] => ⟨number a,number b,2,image⟩
  | _ =>
    match pieces '-' keys with
    | [a,b] => ⟨number a,number b,1,image⟩
    | _ => ⟨number keys,number keys,1,image⟩

def ofText (cs : List Char) : CodeRow :=
  match pieces '=' cs with
  | [keys,values] => ofKeys ((pieces '+' values).map number) keys
  | _ => ofKeys [] cs

def has (r : CodeRow) (c : Char) : Bool :=
  r.first ≤ c.toNat && c.toNat ≤ r.last && (c.toNat - r.first) % r.step = 0

/-- The characters that a row puts in the place of one of its own. A single one moves along
with it. -/
def replacement (r : CodeRow) (c : Char) : List Char :=
  match r.image with
  | [n] => [Char.ofNat (n + (c.toNat - r.first))]
  | many => many.map Char.ofNat

end CodeRow

namespace CodeTable

def ofLines (lines : List String) : List CodeRow :=
  lines.flatMap (fun l => (pieces ' ' l.toList).map CodeRow.ofText)

def row? (table : List CodeRow) (c : Char) : Option CodeRow :=
  table.find? (fun r => r.has c)

def has (table : List CodeRow) (c : Char) : Bool :=
  (row? table c).isSome

/-- The number of a code point; zero where the table has none. -/
def number (table : List CodeRow) (c : Char) : Nat :=
  ((row? table c).bind (fun r => r.image.head?)).getD 0

end CodeTable

end BuildFarm.Text
