import BuildFarm.Text.Composition

namespace BuildFarm.Text.Normal

/-- A syllable block is a leading consonant, a vowel and at most one trailing consonant. -/
def blockParts? (n : Nat) : Option (Nat × Nat) :=
  let s := n - 0xAC00
  if n < 0xAC00 ∨ 11172 ≤ s then none
  else if s % 28 = 0 then some (0x1100 + s / 588,0x1161 + s % 588 / 28)
  else some (n - s % 28,0x11A7 + s % 28)

def block? (a b : Nat) : Option Nat :=
  if 0x1100 ≤ a ∧ a < 0x1113 ∧ 0x1161 ≤ b ∧ b < 0x1176 then
    some (0xAC00 + (a - 0x1100) * 588 + (b - 0x1161) * 28)
  else if 0xAC00 ≤ a ∧ a - 0xAC00 < 11172 ∧ (a - 0xAC00) % 28 = 0 ∧ 0x11A8 ≤ b ∧ b < 0x11C3 then
    some (a + (b - 0x11A7))
  else none

def parts? (c : Char) : Option (Char × Char) :=
  match blockParts? c.toNat with
  | some (a,b) => some (Char.ofNat a,Char.ofNat b)
  | none =>
    match (CodeTable.row? composites c).map CodeRow.image with
    | some [a,b] => some (Char.ofNat a,Char.ofNat b)
    | _ => none

def join? (a b : Char) : Option Char :=
  match block? a.toNat b.toNat with
  | some n => some (Char.ofNat n)
  | none =>
    (composites.find? (fun r => r.image = [a.toNat,b.toNat])).map (fun r => Char.ofNat r.first)

/-- The first of two parts may have parts of its own; four times is enough. -/
def apart (bound : Nat) (c : Char) : List Char :=
  match bound with
  | 0 => [c]
  | n + 1 =>
    match parts? c with
    | some (a,b) => apart n a ++ [b]
    | none => [c]

/-- Before the marks of a higher class, in a list from the end to the start. -/
def sink (c : Char) (k : Nat) : List (Char × Nat) → List (Char × Nat)
  | (d,l) :: rest => if k ≠ 0 ∧ k < l then (d,l) :: sink c k rest else (c,k) :: (d,l) :: rest
  | [] => [(c,k)]

def ordered (cs : List Char) : List (Char × Nat) :=
  (cs.foldl (fun seen c => sink c (CodeTable.number classes c) seen) []).reverse

/-- A text that is being joined: what is done, the last character that marks may join, and
the marks behind it that have not joined it. All lists run from the end to the start. -/
structure Joining where
  done : List Char
  base : Option Char
  marks : List Char
  lastClass : Nat

namespace Joining

def all (j : Joining) : List Char :=
  j.marks ++ j.base.toList ++ j.done

def add (j : Joining) (c : Char) (k : Nat) : Joining :=
  if k = 0 then ⟨j.all,some c,[],0⟩ else { j with marks := c :: j.marks, lastClass := k }

/-- A mark of the same or a higher class keeps those behind it from the base. -/
def step (j : Joining) (c : Char) (k : Nat) : Joining :=
  let joined := if j.marks.isEmpty ∨ j.lastClass < k then j.base.bind (join? · c) else none
  match joined with
  | some d => { j with base := some d }
  | none => j.add c k

end Joining

def joined (cs : List (Char × Nat)) : List Char :=
  (cs.foldl (fun j p => j.step p.1 p.2) (⟨[],none,[],0⟩ : Joining)).all.reverse

end BuildFarm.Text.Normal

namespace BuildFarm.Text

/-- Letters and digits of ASCII are in normal form already. -/
def normal (cs : List Char) : List Char :=
  if cs.all (fun c => c.toNat < 0x80) then cs
  else Normal.joined (Normal.ordered (cs.flatMap (Normal.apart 4)))

end BuildFarm.Text
