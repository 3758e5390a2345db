import BuildFarm.Text.Hex

namespace BuildFarm

inductive SocketAddress
  | v4 (octets : List Nat) (port : Nat)
  | v6 (groups : List Nat) (scope : Nat) (port : Nat)
deriving DecidableEq, Repr

namespace SocketAddress

def port : SocketAddress → Nat
  | v4 _ p => p
  | v6 _ _ p => p

def isV6 : SocketAddress → Bool
  | v4 _ _ => false
  | v6 _ _ _ => true

abbrev Part (α : Type) := List Char → Option (α × List Char)

def literal (c : Char) : Part Unit
  | d :: rest => if d = c then some ((),rest) else none
  | [] => none

/-- At least one digit and a value below the bound. -/
def decimal (bound : Nat) : Part Nat := fun cs =>
  let ds := cs.takeWhile Text.isDigit
  if ds.isEmpty ∨ bound ≤ Text.ofDigits ds then none
  else some (Text.ofDigits ds,cs.drop ds.length)

/-- No zero stands in front of an octet. -/
def octet : Part Nat := fun cs =>
  let ds := cs.takeWhile Text.isDigit
  if 3 < ds.length ∨ (1 < ds.length ∧ ds.head? = some '0') then none else decimal 256 cs

def octets : Part (List Nat) := fun cs => do
  let (a,cs) ← octet cs
  let (_,cs) ← literal '.' cs
  let (b,cs) ← octet cs
  let (_,cs) ← literal '.' cs
  let (c,cs) ← octet cs
  let (_,cs) ← literal '.' cs
  let (d,cs) ← octet cs
  return ([a,b,c,d],cs)

def group : Part Nat := fun cs =>
  let ds := cs.takeWhile (fun c => (Text.hexValue? c).isSome)
  if ds.isEmpty ∨ 4 < ds.length then none
  else some (ds.foldl (fun n c => n * 16 + (Text.hexValue? c).getD 0) 0,cs.drop ds.length)

def afterColon (index : Nat) (p : Part α) : Part α := fun cs =>
  if index = 0 then p cs
  else do
    let (_,cs) ← literal ':' cs
    p cs

/-- As many groups as there are, up to `room` more. The last two may be written as octets,
which is told by the flag. -/
def groups (index : Nat) : Nat → List Char → List Nat × Bool × List Char
  | 0,cs => ([],false,cs)
  | room + 1,cs =>
    match (if room = 0 then none else afterColon index octets cs) with
    | some ([a,b,c,d],rest) => ([a * 256 + b,c * 256 + d],true,rest)
    | _ =>
      match afterColon index group cs with
      | some (g,rest) =>
        let (gs,embedded,rest) := groups (index + 1) room rest
        (g :: gs,embedded,rest)
      | none => ([],false,cs)

/-- A double colon stands for at least one group of zeros. -/
def host6 : Part (List Nat) := fun cs =>
  let (head,embedded,rest) := groups 0 8 cs
  if head.length = 8 then some (head,rest)
  else if embedded then none
  else do
    let (_,rest) ← literal ':' rest
    let (_,rest) ← literal ':' rest
    let (tail,_,rest) := groups 0 (7 - head.length) rest
    return (head ++ List.replicate (8 - head.length - tail.length) 0 ++ tail,rest)

def portPart : Part Nat := fun cs => do
  let (_,cs) ← literal ':' cs
  decimal 0x10000 cs

def address4 : Part SocketAddress := fun cs => do
  let (o,cs) ← octets cs
  let (p,cs) ← portPart cs
  return (v4 o p,cs)

def address6 : Part SocketAddress := fun cs => do
  let (_,cs) ← literal '[' cs
  let (g,cs) ← host6 cs
  let (scope,cs) ←
    match cs with
    | '%' :: rest => decimal 0x100000000 rest
    | _ => some (0,cs)
  let (_,cs) ← literal ']' cs
  let (p,cs) ← portPart cs
  return (v6 g scope p,cs)

def parse? (s : String) : Option SocketAddress :=
  match address4 s.toList <|> address6 s.toList with
  | some (a,[]) => some a
  | _ => none

def joined (sep : Char) (parts : List (List Char)) : List Char :=
  (parts.intersperse [sep]).flatten

/-- The groups of a host that is written as a whole. -/
def host6? (cs : List Char) : Option (List Nat) :=
  match host6 cs with
  | some (gs,[]) => some gs
  | _ => none

def octetsText (os : List Nat) : List Char :=
  joined '.' (os.map Text.digits)

def groupsText (gs : List Nat) : List Char :=
  joined ':' (gs.map (Nat.toDigits 16))

/-- Where the first of the longest runs of zeros starts, and its length. -/
def longestZeros (gs : List Nat) : Nat × Nat :=
  (List.range gs.length).foldl (fun best i =>
    let n := ((gs.drop i).takeWhile (· = 0)).length
    if best.2 < n then (i,n) else best) (0,0)

/-- A run of zeros is written as a double colon. -/
def compressed (gs : List Nat) : List Char :=
  let (start,n) := longestZeros gs
  if 1 < n then groupsText (gs.take start) ++ ':' :: ':' :: groupsText (gs.drop (start + n))
  else groupsText gs

def host6Text (gs : List Nat) : List Char :=
  match gs with
  | [0,0,0,0,0,0xffff,a,b] =>
    [':',':','f','f','f','f',':'] ++ octetsText [a / 256,a % 256,b / 256,b % 256]
  | _ => compressed gs

def render : SocketAddress → List Char
  | v4 os p => octetsText os ++ ':' :: Text.digits p
  | v6 gs scope p =>
    '[' :: host6Text gs ++ (if scope = 0 then [] else '%' :: Text.digits scope) ++
      ']' :: ':' :: Text.digits p

def text (a : SocketAddress) : String :=
  String.ofList a.render

end SocketAddress

end BuildFarm
