import BuildFarm.Text.Blank
import BuildFarm.Text.Bytes

namespace BuildFarm

inductive Charset
  | utf8
  | utf16 (bigEndian : Bool)
  /-- One byte for each character: Latin letters, and typographic signs among the controls. -/
  | western
deriving DecidableEq, Repr

namespace Charset

def westernNames : List String :=
  ["ansi_x3.4-1968","ascii","cp1252","cp819","csisolatin1","ibm819","iso-8859-1","iso-ir-100",
   "iso8859-1","iso88591","iso_8859-1","iso_8859-1:1987","l1","latin1","us-ascii",
   "windows-1252","x-cp1252"]

def bigEndianNames : List String := ["unicodefffe","utf-16be"]

def littleEndianNames : List String :=
  ["csunicode","iso-10646-ucs-2","ucs-2","unicode","unicodefeff","utf-16","utf-16le"]

/-- A name without a meaning here stands for UTF-8. -/
def ofName (name : String) : Charset :=
  let name := (Text.trim name).toLower
  if westernNames.contains name then western
  else if bigEndianNames.contains name then utf16 true
  else if littleEndianNames.contains name then utf16 false
  else utf8

def unquoted (cs : List Char) : List Char :=
  match cs with
  | '"' :: rest => rest.takeWhile (· ≠ '"')
  | _ => cs

def value? (parameter : List Char) : Option String :=
  let cs := Text.trimEnd (Text.trimStart parameter)
  let key := cs.takeWhile (· ≠ '=')
  if key.map Char.toLower = "charset".toList ∧ key.length < cs.length then
    some (String.ofList (unquoted (cs.drop (key.length + 1))))
  else none

/-- Told by the first parameter of that name. -/
def ofContentType (s : String) : Charset :=
  match (Text.pieces ';' s.toList).tail.findSome? value? with
  | some name => ofName name
  | none => utf8

/-- The characters of the bytes 0x80 to 0x9F. -/
def typographic : List Nat :=
  [0x20AC,0x81,0x201A,0x192,0x201E,0x2026,0x2020,0x2021,0x2C6,0x2030,0x160,0x2039,0x152,0x8D,
   0x17D,0x8F,0x90,0x2018,0x2019,0x201C,0x201D,0x2022,0x2013,0x2014,0x2DC,0x2122,0x161,0x203A,
   0x153,0x9D,0x17E,0x178]

def westernChar (b : UInt8) : Char :=
  if 0x80 ≤ b ∧ b < 0xA0 then Char.ofNat (typographic.getD (b.toNat - 0x80) 0)
  else Char.ofNat b.toNat

def replacement : Char := Char.ofNat 0xFFFD

def units (bigEndian : Bool) : Bytes → List (Option Nat)
  | [] => []
  | [_] => [none]
  | a :: b :: rest =>
    let unit := if bigEndian then a.toNat * 256 + b.toNat else b.toNat * 256 + a.toNat
    some unit :: units bigEndian rest

def isHigh (n : Nat) : Bool := 0xD800 ≤ n && n < 0xDC00

def isLow (n : Nat) : Bool := 0xDC00 ≤ n && n < 0xE000

/-- Half a pair, and half a unit, are replaced. -/
def ofUnits : List (Option Nat) → List Char
  | some a :: some b :: rest =>
    if isHigh a ∧ isLow b then
      Char.ofNat (0x10000 + (a - 0xD800) * 0x400 + (b - 0xDC00)) :: ofUnits rest
    else
      (if isHigh a ∨ isLow a then replacement else Char.ofNat a) :: ofUnits (some b :: rest)
  | some a :: rest =>
    if isHigh a then replacement :: ofUnits (rest.drop 1)
    else (if isLow a then replacement else Char.ofNat a) :: ofUnits rest
  | none :: rest => replacement :: ofUnits rest
  | [] => []
termination_by us => us.length
decreasing_by all_goals simp_wf; try omega

/-- The text in this character set, whatever mark stands in front. -/
def text (c : Charset) (bs : Bytes) : String :=
  match c with
  | utf8 => bs.lossy
  | utf16 bigEndian => String.ofList (ofUnits (units bigEndian bs))
  | western => String.ofList (bs.map westernChar)

def decode (c : Charset) (bs : Bytes) : String :=
  match bs with
  | 0xEF :: 0xBB :: 0xBF :: rest => utf8.text rest
  | 0xFE :: 0xFF :: rest => (utf16 true).text rest
  | 0xFF :: 0xFE :: rest => (utf16 false).text rest
  | _ => c.text bs

end Charset

end BuildFarm
