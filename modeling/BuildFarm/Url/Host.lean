import BuildFarm.SocketAddress
import BuildFarm.Text.Blank
import BuildFarm.Text.Percent
import BuildFarm.Url.Label

namespace BuildFarm.Url

def isControl (c : Char) : Bool :=
  c.toNat < 0x20 || 0x7E < c.toNat

def isForbidden (c : Char) : Bool :=
  "\t\n\r #/:<>?@[\\]^|".toList.contains c || c.toNat = 0

def isForbiddenInName (c : Char) : Bool :=
  isForbidden c || c.toNat < 0x20 || c = '%' || c.toNat = 0x7F

/-- A part of an address of four octets may be decimal, octal or hexadecimal. -/
def partValue? (cs : List Char) : Option Nat :=
  let inBase (base : Nat) (ds : List Char) : Option Nat :=
    ds.foldl (fun n c => do
      let d ← Text.hexValue? c
      if d < base then return (← n) * base + d else none) (some 0)
  match cs with
  | [] => none
  | '0' :: x :: rest => if x = 'x' ∨ x = 'X' then inBase 16 rest else inBase 8 (x :: rest)
  | _ => inBase 10 cs

def withoutLastDot (parts : List (List Char)) : List (List Char) :=
  if 1 < parts.length ∧ parts.getLast? = some [] then parts.dropLast else parts

def endsInNumber (parts : List (List Char)) : Bool :=
  match parts.getLast? with
  | none => false
  | some last =>
    (!last.isEmpty && last.all Text.isDigit) ||
      (((last.take 2).map Char.toLower = ['0','x']) && (partValue? last).isSome)

/-- The last part stands for all octets that are not given. -/
def octets? (parts : List (List Char)) : Option (List Nat) := do
  let values ← parts.mapM partValue?
  if 4 < values.length then none
  else
    let last ← values.getLast?
    let front := values.dropLast
    if front.any (255 < ·) ∨ Nat.pow 256 (4 - front.length) ≤ last then none
    else
      return front ++ (List.range (4 - front.length)).map
        (fun i => last / Nat.pow 256 (4 - front.length - 1 - i) % 256)

/-- The written form of a name, or the address that it spells. -/
def name? (cs : List Char) : Option (List Char) := do
  let decoded ← (Percent.decode (Bytes.ofText (String.ofList cs))).text?
  let labels := (← Label.ofName? decoded.toList).map Label.written
  let name := (labels.intersperse ['.']).flatten
  let parts := withoutLastDot labels
  if name.isEmpty ∨ name.any isForbiddenInName then none
  else if endsInNumber parts then (octets? parts).map SocketAddress.octetsText
  else some name

def bracketed? (cs : List Char) : Option (List Char) := do
  if cs.getLast? = some ']' then
    let gs ← SocketAddress.host6? cs.dropLast
    return '[' :: SocketAddress.compressed gs ++ [']']
  else none

/-- The written form of a host; `special` schemes have names and addresses only. -/
def host? (special : Bool) (cs : List Char) : Option (List Char) :=
  match cs with
  | '[' :: rest => bracketed? rest
  | _ =>
    if special then name? cs
    else if cs.any isForbidden then none
    else some (Percent.encode isControl cs)

end BuildFarm.Url
