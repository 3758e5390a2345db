import BuildFarm.Time

namespace BuildFarm

structure AccessToken where
  value : String
  issued : Instant
  lifetime : Duration
deriving DecidableEq, Repr

namespace AccessToken

/-- A token is not used in the last seconds of its life. -/
def margin : Duration := .ofSeconds 10

/-- A duration has at most 2^63 - 1 milliseconds. -/
def longestSeconds : Int := 0x7FFFFFFFFFFFFFFF / 1000

/-- None if the token would outlive the last instant. -/
def ofExpiresIn? (value : String) (issued : Instant) (expiresIn : Int) : Option AccessToken :=
  let seconds := max expiresIn 0
  if longestSeconds < seconds then none
  else do
    let _ ← issued.add? (.ofSeconds seconds)
    return ⟨value,issued,.ofSeconds seconds⟩

/-- Outside the instants that there are, the nearest one. -/
def deadline (t : AccessToken) : Instant :=
  match t.issued.add? t.lifetime with
  | some expiry => (expiry.add? ⟨-margin.seconds,0⟩).getD .least
  | none => if t.lifetime.isNegative then .least else .greatest

def isFresh (t : AccessToken) (now : Instant) : Bool :=
  now.lt t.deadline

end AccessToken

end BuildFarm
