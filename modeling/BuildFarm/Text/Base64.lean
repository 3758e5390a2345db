import BuildFarm.Text.Bytes

namespace BuildFarm.Base64

/-- What becomes of the `=` at the end of a text that is read. -/
inductive Padding
  | optional
  | refused
deriving DecidableEq, Repr

/-- A form of base64 is told by its last two symbols and its rule for padding. -/
structure Form where
  symbol62 : Char
  symbol63 : Char
  padding : Padding

def standard : Form := ⟨'+','/',.optional⟩

def urlSafe : Form := ⟨'-','_',.refused⟩

inductive Fault
  | symbol (offset : Nat) (byte : UInt8)
  | length (symbols : Nat)
  | lastSymbol (offset : Nat) (byte : UInt8)
  | padding
deriving DecidableEq, Repr

def Fault.message : Fault → String
  | .symbol offset byte => s!"Invalid symbol {byte.toNat}, offset {offset}."
  | .length symbols => s!"Invalid input length: {symbols}"
  | .lastSymbol offset byte => s!"Invalid last symbol {byte.toNat}, offset {offset}."
  | .padding => "Invalid padding"

def pad : UInt8 := 61

/-- The six bits that a symbol stands for. -/
def value? (form : Form) (b : UInt8) : Option Nat :=
  let n := b.toNat
  if 65 ≤ n ∧ n ≤ 90 then some (n - 65)
  else if 97 ≤ n ∧ n ≤ 122 then some (n - 71)
  else if 48 ≤ n ∧ n ≤ 57 then some (n + 4)
  else if n = form.symbol62.toNat then some 62
  else if n = form.symbol63.toNat then some 63
  else none

def symbol (form : Form) (n : Nat) : UInt8 :=
  if n < 26 then UInt8.ofNat (n + 65)
  else if n < 52 then UInt8.ofNat (n + 71)
  else if n < 62 then UInt8.ofNat (n - 4)
  else if n = 62 then UInt8.ofNat form.symbol62.toNat
  else UInt8.ofNat form.symbol63.toNat

def valueAt (form : Form) (offset : Nat) (b : UInt8) : Except Fault Nat :=
  match value? form b with
  | some n => .ok n
  | none => .error (.symbol offset b)

/-- Three bytes from four groups of six bits. -/
def join (a b c d : Nat) : Bytes :=
  [UInt8.ofNat (a * 4 + b / 16),UInt8.ofNat (b % 16 * 16 + c / 4),UInt8.ofNat (c % 4 * 64 + d)]

/-- The symbols of the last group, up to its padding. `offset` is where the group
starts, `seen` holds the values read and `pads` where the padding began. -/
def lastGroup (form : Form) (offset : Nat) (seen : List Nat) (pads : Option Nat)
    (at_ : Nat) : Bytes → Except Fault (List Nat × Bool)
  | [] => .ok (seen.reverse,pads.isSome)
  | b :: bs =>
    if b = pad then
      if at_ < 2 then .error (.symbol (offset + at_) b)
      else lastGroup form offset seen (some (pads.getD at_)) (at_ + 1) bs
    else
      match pads with
      | some p => .error (.symbol (offset + p) pad)
      | none => do
        let n ← valueAt form (offset + at_) b
        lastGroup form offset (n :: seen) none (at_ + 1) bs

/-- The bytes of the last group; what its symbols hold beyond whole bytes must be zero. -/
def lastBytes (offset : Nat) (group : Bytes) : List Nat → Except Fault Bytes
  | [a,b] =>
    if b % 16 = 0 then .ok ((join a b 0 0).take 1)
    else .error (.lastSymbol (offset + 1) (group.getD 1 0))
  | [a,b,c] =>
    if c % 4 = 0 then .ok ((join a b c 0).take 2)
    else .error (.lastSymbol (offset + 2) (group.getD 2 0))
  | [a,b,c,d] => .ok (join a b c d)
  | few => .error (.length (offset + few.length))

def decodeLast (form : Form) (offset : Nat) (group : Bytes) : Except Fault Bytes := do
  let (values,padded) ← lastGroup form offset [] none 0 group
  if values.length < 2 then .error (.length (offset + values.length))
  else if padded && form.padding = .refused then .error .padding
  else lastBytes offset group values

def decodeFrom (form : Form) (offset : Nat) : Bytes → Except Fault Bytes
  | a :: b :: c :: d :: e :: rest => do
    let a ← valueAt form offset a
    let b ← valueAt form (offset + 1) b
    let c ← valueAt form (offset + 2) c
    let d ← valueAt form (offset + 3) d
    return join a b c d ++ (← decodeFrom form (offset + 4) (e :: rest))
  | group => decodeLast form offset group

/-- A byte too many at the end is told from a symbol too many: a text one longer than a
whole number of groups is first asked whether its last byte is a symbol at all. -/
def decode (form : Form) (text : Bytes) : Except Fault Bytes :=
  match text.getLast? with
  | none => .ok []
  | some last =>
    if text.length % 4 = 1 ∧ last ≠ pad ∧ value? form last = none then
      .error (.symbol (text.length - 1) last)
    else decodeFrom form 0 text

/-- The text of the bytes, without padding unless the form reads it. -/
def encode (form : Form) : Bytes → Bytes
  | [] => []
  | [a] =>
    symbol form (a.toNat / 4) :: symbol form (a.toNat % 4 * 16) ::
      (if form.padding = .optional then [pad,pad] else [])
  | [a,b] =>
    symbol form (a.toNat / 4) :: symbol form (a.toNat % 4 * 16 + b.toNat / 16) ::
      symbol form (b.toNat % 16 * 4) :: (if form.padding = .optional then [pad] else [])
  | a :: b :: c :: rest =>
    symbol form (a.toNat / 4) :: symbol form (a.toNat % 4 * 16 + b.toNat / 16) ::
      symbol form (b.toNat % 16 * 4 + c.toNat / 64) :: symbol form (c.toNat % 64) ::
        encode form rest

def encodedText (form : Form) (bs : Bytes) : String :=
  String.ofList ((encode form bs).map (fun b => Char.ofNat b.toNat))

end BuildFarm.Base64
