import BuildFarm.Text.Bytes
import BuildFarm.Text.Hex

namespace BuildFarm.Percent

def percent : UInt8 := 37

def hexByte? (b : UInt8) : Option Nat :=
  Text.hexValue? (Char.ofNat b.toNat)

def decode : Bytes → Bytes
  | [] => []
  | a :: b :: c :: rest =>
    if a = percent then
      match hexByte? b,hexByte? c with
      | some x,some y => UInt8.ofNat (x * 16 + y) :: decode rest
      | _,_ => a :: decode (b :: c :: rest)
    else a :: decode (b :: c :: rest)
  | a :: rest => a :: decode rest

/-- The escape of one byte. -/
def escape (b : UInt8) : List Char :=
  ['%',Text.upperHexDigit (b.toNat / 16),Text.upperHexDigit (b.toNat % 16)]

/-- The characters for which the test holds are written as escapes, byte by byte. -/
def encode (escaped : Char → Bool) (cs : List Char) : List Char :=
  cs.flatMap (fun c =>
    if escaped c then (Bytes.ofText (String.singleton c)).flatMap escape else [c])

end BuildFarm.Percent
