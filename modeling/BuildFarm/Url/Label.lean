import BuildFarm.Text.Blank
import BuildFarm.Url.Direction
import BuildFarm.Url.Folding
import BuildFarm.Url.Joiner
import BuildFarm.Url.Punycode

namespace BuildFarm.Url

/-- The letters of a label, and how they are written in ASCII. -/
structure Label where
  letters : List Char
  written : List Char
deriving DecidableEq, Repr

namespace Label

def isAscii (cs : List Char) : Bool :=
  cs.all (fun c => c.toNat < 0x80)

def startsWithMark (cs : List Char) : Bool :=
  cs.head?.any (Text.CodeTable.has Text.marks)

def isSound (cs : List Char) : Bool :=
  isAscii cs || (cs.all isFolded && !startsWithMark cs && Joiner.allFit cs)

/-- Longer labels outside ASCII are refused. -/
def maxLetters : Nat := 1000

/-- Longer labels in Punycode are refused. -/
def maxDigits : Nat := 2000

/-- A label with the mark, given without it. -/
def ofPunycode? (digits : List Char) : Option Label := do
  if !isAscii digits ∨ maxDigits < digits.length then none
  let letters ← Punycode.decode? digits
  if isAscii letters ∨ !isSound letters ∨ Text.normal letters ≠ letters ∨
      Punycode.mark.isPrefixOf letters then none
  return ⟨letters,Punycode.mark ++ digits⟩

/-- A label of a folded name. -/
def ofFolded? (cs : List Char) : Option Label :=
  match Text.dropLead? Punycode.mark cs with
  | some digits => ofPunycode? digits
  | none =>
    if !isSound cs ∨ (!isAscii cs && maxLetters < cs.length) then none
    else some ⟨cs,Punycode.label cs⟩

/-- The labels of a name. -/
def ofName? (cs : List Char) : Option (List Label) := do
  let labels ← (Text.pieces '.' (folded cs)).mapM ofFolded?
  if Direction.agree (labels.map letters) then some labels else none

end Label

end BuildFarm.Url
