namespace BuildFarm

def nanosPerSecond : Nat := 1000000000

structure Instant where
  seconds : Int
  nanos : Nat
deriving DecidableEq, Repr, Inhabited

/-- The nanoseconds are fewer than 10^9; a negative duration has negative seconds. -/
structure Duration where
  seconds : Int
  nanos : Nat
deriving DecidableEq, Repr, Inhabited

namespace Duration

def ofSeconds (n : Int) : Duration := ⟨n,0⟩

def isNegative (d : Duration) : Bool :=
  d.seconds < 0

/-- Whole seconds and the nanoseconds beyond them, both with the sign of the duration. -/
def split (d : Duration) : Int × Int :=
  if d.seconds < 0 ∧ 0 < d.nanos then (d.seconds + 1,(d.nanos : Int) - nanosPerSecond)
  else (d.seconds,d.nanos)

end Duration

namespace Instant

def epoch : Instant := ⟨0,0⟩

/-- The start of the year -262143. -/
def least : Instant := ⟨-8334601228800,0⟩

/-- The end of the year 262142. -/
def greatest : Instant := ⟨8210266876799,999999999⟩

def lt (a b : Instant) : Bool :=
  a.seconds < b.seconds || (a.seconds = b.seconds && a.nanos < b.nanos)

def le (a b : Instant) : Bool :=
  !b.lt a

def isLeap (a : Instant) : Bool :=
  nanosPerSecond ≤ a.nanos

def representable (a : Instant) : Bool :=
  least.seconds ≤ a.seconds && a.seconds ≤ greatest.seconds

def ofSeconds? (n : Int) : Option Instant :=
  let a : Instant := ⟨n,0⟩
  if a.representable then some a else none

/-- Seconds and nanoseconds where the nanoseconds may be below zero or above 10^9. -/
def carried (seconds nanos : Int) : Option Instant :=
  let a : Instant :=
    if nanos < 0 then ⟨seconds - 1,(nanos + nanosPerSecond).toNat⟩
    else if nanosPerSecond ≤ nanos then ⟨seconds + 1,(nanos - nanosPerSecond).toNat⟩
    else ⟨seconds,nanos.toNat⟩
  if a.representable then some a else none

/-- A sum that leaves a leap second counts from the second before it when it goes on and
from the second after it when it goes back; otherwise it stays in the leap second. -/
def add? (a : Instant) (d : Duration) : Option Instant :=
  let (seconds,nanos) := d.split
  if a.isLeap then
    if 0 < seconds ∨ (0 < nanos ∧ 2 * (nanosPerSecond : Int) - nanos ≤ a.nanos) then
      carried (a.seconds + seconds) (a.nanos - nanosPerSecond + nanos)
    else if seconds < 0 then
      carried (a.seconds + 1 + seconds) (a.nanos - nanosPerSecond + nanos)
    else some ⟨a.seconds,((a.nanos : Int) + nanos).toNat⟩
  else carried (a.seconds + seconds) (a.nanos + nanos)

end Instant

end BuildFarm
