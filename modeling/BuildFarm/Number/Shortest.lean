import BuildFarm.Number.Binary64
import BuildFarm.Text.Hex

namespace BuildFarm.Binary64

/-- The decimal `digits * 10 ^ exponent`. -/
structure Decimal where
  digits : Nat
  exponent : Int
deriving DecidableEq, Repr

def Decimal.value (d : Decimal) : Ratio :=
  .scaled d.digits 10 d.exponent

/-- The interval of what rounds to the number has its ends half way to the neighbours;
the ends belong to it if the mantissa is even. -/
def roundsTo (x : Binary64) (a : Ratio) : Bool :=
  let m := x.mantissa
  let low : Ratio :=
    if m = 0x10000000000000 ∧ leastExponent < x.exponent then .scaled (4 * m - 1) 2 (x.exponent - 2)
    else .scaled (2 * m - 1) 2 (x.exponent - 1)
  let high : Ratio := .scaled (2 * m + 1) 2 (x.exponent - 1)
  if m % 2 = 0 then low.le a && a.le high else low.lt a && a.lt high

/-- The exponent of the first decimal digit. -/
def leadExponent (a : Ratio) : Int :=
  if a.den ≤ a.num then ((Text.digits (a.num / a.den)).length : Int) - 1
  else
    let n := (Text.digits (a.den / a.num)).length
    if a.den ≤ a.num * Nat.pow 10 (n - 1) then 1 - (n : Int) else -(n : Int)

/-- The nearer of the two neighbours on the grid of `n` digits, among those that read back. -/
def onGrid? (x : Binary64) (a : Ratio) (lead : Int) (n : Nat) : Option Decimal :=
  let e := lead - n + 1
  let q := a.mul (.scaled 1 10 (-e))
  let below : Decimal := ⟨q.num / q.den,e⟩
  let above : Decimal := ⟨q.num / q.den + 1,e⟩
  match roundsTo x below.value,roundsTo x above.value with
  | true,true => some ⟨q.nearest,e⟩
  | true,false => some below
  | false,true => some above
  | false,false => none

def dropZeros (steps : Nat) (d : Decimal) : Decimal :=
  match steps with
  | 0 => d
  | n + 1 => if d.digits ≠ 0 ∧ d.digits % 10 = 0 then dropZeros n ⟨d.digits / 10,d.exponent + 1⟩ else d

/-- Seventeen digits tell any two numbers apart. -/
def shortest (x : Binary64) : Decimal :=
  if x.isZero then ⟨0,0⟩
  else
    let a := x.magnitude
    let lead := leadExponent a
    match (List.range 17).findSome? (fun i => onGrid? x a lead (i + 1)) with
    | some d => dropZeros 17 d
    | none => ⟨0,0⟩

def exponentText (e : Int) : List Char :=
  (if e < 0 then '-' else '+') :: Text.digits e.natAbs

/-- Positional for exponents of the first digit from -5 to 15, always with a point;
scientific with a signed exponent beyond. -/
def decimalText (d : Decimal) : List Char :=
  let ds := Text.digits d.digits
  let lead : Int := d.exponent + ds.length - 1
  if lead < -5 ∨ 15 < lead then
    match ds with
    | [] => []
    | [c] => c :: 'e' :: exponentText lead
    | c :: rest => c :: '.' :: (rest ++ 'e' :: exponentText lead)
  else if 0 ≤ d.exponent then
    ds ++ List.replicate d.exponent.toNat '0' ++ ['.','0']
  else if 0 ≤ lead then
    ds.take (lead.toNat + 1) ++ '.' :: ds.drop (lead.toNat + 1)
  else
    '0' :: '.' :: (List.replicate (-lead - 1).toNat '0' ++ ds)

def text (x : Binary64) : List Char :=
  (if x.negative then ['-'] else []) ++ decimalText x.shortest

end BuildFarm.Binary64
