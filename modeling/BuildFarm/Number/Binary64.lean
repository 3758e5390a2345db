namespace BuildFarm

/-- A fraction of natural numbers. -/
structure Ratio where
  num : Nat
  den : Nat
deriving DecidableEq, Repr

namespace Ratio

def le (a b : Ratio) : Bool :=
  a.num * b.den ≤ b.num * a.den

def lt (a b : Ratio) : Bool :=
  a.num * b.den < b.num * a.den

def mul (a b : Ratio) : Ratio :=
  ⟨a.num * b.num,a.den * b.den⟩

def inv (a : Ratio) : Ratio :=
  ⟨a.den,a.num⟩

/-- The whole number nearest to the fraction; of two, the even one. -/
def nearest (a : Ratio) : Nat :=
  let q := a.num / a.den
  let r := a.num % a.den
  if 2 * r < a.den then q
  else if 2 * r = a.den then q + q % 2
  else q + 1

/-- A whole number times a power, whose exponent may be negative. -/
def scaled (n base : Nat) (exponent : Int) : Ratio :=
  if 0 ≤ exponent then ⟨n * Nat.pow base exponent.toNat,1⟩ else ⟨n,Nat.pow base (-exponent).toNat⟩

end Ratio

/-- The number `mantissa * 2 ^ exponent`, with its sign. Zero has a sign too. -/
structure Binary64 where
  negative : Bool
  mantissa : Nat
  exponent : Int
deriving DecidableEq, Repr

namespace Binary64

def leastExponent : Int := -1074

def greatestExponent : Int := 971

def zero (negative : Bool) : Binary64 :=
  ⟨negative,0,leastExponent⟩

def isZero (x : Binary64) : Bool :=
  x.mantissa = 0

def neg (x : Binary64) : Binary64 :=
  { x with negative := !x.negative }

def magnitude (x : Binary64) : Ratio :=
  .scaled x.mantissa 2 x.exponent

/-- The mantissa has 53 bits, fewer only at the least exponent. -/
def exponentFor (a : Ratio) : Int :=
  let e : Int := (Nat.log2 a.num : Int) - Nat.log2 a.den - 53
  let whole := if (Ratio.scaled 1 2 (e + 53)).le a then e + 1 else e
  max whole leastExponent

def round? (negative : Bool) (a : Ratio) : Option Binary64 :=
  if a.num = 0 then some (zero negative)
  else
    let e := exponentFor a
    let m := (a.mul (.scaled 1 2 (-e))).nearest
    let (m,e) := if m = 0x20000000000000 then (0x10000000000000,e + 1) else (m,e)
    if m = 0 then some (zero negative)
    else if e > greatestExponent then none
    else some ⟨negative,m,e⟩

def ofNat? (n : Nat) : Option Binary64 :=
  round? false ⟨n,1⟩

def mul? (x y : Binary64) : Option Binary64 :=
  round? (x.negative != y.negative) (x.magnitude.mul y.magnitude)

/-- The divisor is not zero. -/
def div? (x y : Binary64) : Option Binary64 :=
  round? (x.negative != y.negative) (x.magnitude.mul y.magnitude.inv)

/-- The number nearest to a power of ten. -/
def powerOfTen? (k : Nat) : Option Binary64 :=
  if k ≤ 308 then ofNat? (Nat.pow 10 k) else none

/-- One step of scaling by more than the largest power of ten divides by that power and
rounds, so few steps leave nothing. -/
def scaleTenFrom (steps : Nat) (x : Binary64) (k : Int) : Option Binary64 :=
  match powerOfTen? k.natAbs with
  | some p => if 0 ≤ k then mul? x p else div? x p
  | none =>
    if x.isZero then some x
    else if 0 ≤ k then none
    else
      match steps with
      | 0 => some (zero x.negative)
      | n + 1 => do
        let y ← div? x (← powerOfTen? 308)
        scaleTenFrom n y (k + 308)

/-- A significand times a power of ten. Both are rounded first and their product again,
so the result may be a neighbour of the nearest number. -/
def ofDecimal? (significand : Nat) (k : Int) : Option Binary64 := do
  scaleTenFrom 4 (← ofNat? significand) k

end Binary64

end BuildFarm
