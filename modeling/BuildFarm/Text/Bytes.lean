namespace BuildFarm

abbrev Bytes := List UInt8

namespace Bytes

def ofText (s : String) : Bytes :=
  s.toUTF8.data.toList

/-- No result if any byte is part of no character. -/
def text? (bs : Bytes) : Option String :=
  String.fromUTF8? ⟨bs.toArray⟩

end Bytes

/-- One step of a text given as bytes. -/
inductive Glyph
  | char (c : Char)
  | stray (byte : UInt8)
deriving DecidableEq, Repr

namespace Glyph

/-- How many bytes of the text the step takes. -/
def width : Glyph → Nat
  | char c => c.utf8Size
  | stray _ => 1

def char? : Glyph → Option Char
  | char c => some c
  | stray _ => none

def isTail (b : UInt8) : Bool :=
  0x80 ≤ b && b ≤ 0xBF

def tailBits (b : UInt8) : Nat :=
  b.toNat % 64

/-- The character at the front, with the number of bytes after the first that it takes. -/
def front? (a : UInt8) (rest : Bytes) : Option (Char × Nat) :=
  if a < 0x80 then some (Char.ofNat a.toNat,0)
  else if 0xC2 ≤ a && a ≤ 0xDF then
    match rest with
    | b :: _ => if isTail b then some (Char.ofNat (a.toNat % 32 * 64 + tailBits b),1) else none
    | _ => none
  else if 0xE0 ≤ a && a ≤ 0xEF then
    match rest with
    | b :: c :: _ =>
      let low : UInt8 := if a = 0xE0 then 0xA0 else 0x80
      let high : UInt8 := if a = 0xED then 0x9F else 0xBF
      if low ≤ b && b ≤ high && isTail c then
        some (Char.ofNat (a.toNat % 16 * 4096 + tailBits b * 64 + tailBits c),2)
      else none
    | _ => none
  else if 0xF0 ≤ a && a ≤ 0xF4 then
    match rest with
    | b :: c :: d :: _ =>
      let low : UInt8 := if a = 0xF0 then 0x90 else 0x80
      let high : UInt8 := if a = 0xF4 then 0x8F else 0xBF
      if low ≤ b && b ≤ high && isTail c && isTail d then
        some (Char.ofNat (a.toNat % 8 * 262144 + tailBits b * 4096 + tailBits c * 64 + tailBits d),3)
      else none
    | _ => none
  else none

/-- How many further bytes a broken character still claims before it fails. A reader
that replaces broken characters puts one mark for all of them together. -/
def broken (a : UInt8) (rest : Bytes) : Nat :=
  let second (low high : UInt8) : Bool :=
    match rest with
    | b :: _ => low ≤ b && b ≤ high
    | [] => false
  let third : Bool :=
    match rest with
    | _ :: c :: _ => isTail c
    | _ => false
  if 0xE0 ≤ a && a ≤ 0xEF then
    if second (if a = 0xE0 then 0xA0 else 0x80) (if a = 0xED then 0x9F else 0xBF) then 1 else 0
  else if 0xF0 ≤ a && a ≤ 0xF4 then
    if second (if a = 0xF0 then 0x90 else 0x80) (if a = 0xF4 then 0x8F else 0xBF) then
      if third then 2 else 1
    else 0
  else 0

/-- Reads front to back; `skip` counts bytes already taken by the character before. -/
def scan (skip : Nat) : Bytes → List Glyph
  | [] => []
  | a :: rest =>
    match skip with
    | n + 1 => scan n rest
    | 0 =>
      match front? a rest with
      | some (c,n) => char c :: scan n rest
      | none => stray a :: scan 0 rest

def ofString (s : String) : List Glyph :=
  s.toList.map char

/-- A text without strays is read as a whole; the walk is for the others. -/
def ofBytes (bs : Bytes) : List Glyph :=
  match bs.text? with
  | some s => ofString s
  | none => scan 0 bs

def mend (skip : Nat) : Bytes → List Char
  | [] => []
  | a :: rest =>
    match skip with
    | n + 1 => mend n rest
    | 0 =>
      match front? a rest with
      | some (c,n) => c :: mend n rest
      | none => Char.ofNat 0xFFFD :: mend (broken a rest) rest

end Glyph

namespace Bytes

/-- Each broken character is replaced by the replacement character. -/
def lossy (bs : Bytes) : String :=
  match bs.text? with
  | some s => s
  | none => String.ofList (Glyph.mend 0 bs)

end Bytes

end BuildFarm
