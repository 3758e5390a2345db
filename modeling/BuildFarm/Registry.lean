import Std.Data.HashMap
import BuildFarm.Fifo
import BuildFarm.Ident

namespace BuildFarm

inductive TokenError
  | unknown
  | retired
deriving DecidableEq, Repr

def TokenError.message : TokenError → String
  | .unknown => "unknown dispatch token"
  | .retired => "dispatch token belongs to a concluded claim"

/-- Readings of the clock count milliseconds and never go back. -/
structure Registry where
  ttl : Nat
  capacity : Nat
  live : Std.HashMap DispatchToken JobId
  retired : Std.HashMap DispatchToken JobId
  /-- The retired tokens, each with the reading at which it was retired, oldest first. -/
  order : Fifo (Nat × DispatchToken)

namespace Registry

def defaultTtl : Nat := 24 * 60 * 60 * 1000

def defaultCapacity : Nat := 100000

def empty (ttl capacity : Nat) : Registry := ⟨ttl,capacity,∅,∅,.empty⟩

def fresh : Registry := empty defaultTtl defaultCapacity

/-- Whether the oldest retired token, retired at the given reading, is to be forgotten. -/
def isStale (r : Registry) (now since : Nat) : Bool :=
  r.ttl ≤ now - since || r.capacity < r.order.count

/-- Forgets from the front what is too old or too much, at most so many tokens. -/
def pruneFrom (now : Nat) (bound : Nat) (r : Registry) : Registry :=
  match bound with
  | 0 => r
  | n + 1 =>
    match r.order.head? with
    | none => r
    | some (since,token) =>
      if r.isStale now since then
        pruneFrom now n { r with retired := r.retired.erase token, order := r.order.tail }
      else r

def prune (r : Registry) (now : Nat) : Registry :=
  pruneFrom now r.order.count r

def isTaken (r : Registry) (t : DispatchToken) : Bool :=
  r.live.contains t || r.retired.contains t

/-- Binds the first of the drawn tokens that is not taken. -/
def issue? (r : Registry) (now : Nat) (draws : List DispatchToken) (job : JobId) :
    Option (DispatchToken × Registry) :=
  let r := r.prune now
  match draws.find? (fun t => !r.isTaken t) with
  | none => none
  | some t => some (t,{ r with live := r.live.insert t job })

def resolve (r : Registry) (t : DispatchToken) : Except TokenError JobId :=
  match r.live[t]? with
  | some job => .ok job
  | none =>
    match r.retired[t]? with
    | some job => .ok job
    | none => .error .unknown

def resolveLive (r : Registry) (t : DispatchToken) : Except TokenError JobId :=
  match r.live[t]? with
  | some job => .ok job
  | none => .error (if r.retired.contains t then .retired else .unknown)

/-- Retires a token at one reading of the clock and forgets others at the next. Whether the
token was live. -/
def retireAt (r : Registry) (since now : Nat) (t : DispatchToken) : Bool × Registry :=
  match r.live[t]? with
  | some job =>
    (true,Registry.prune { r with
      live := r.live.erase t
      retired := r.retired.insert t job
      order := r.order.push (since,t) } now)
  | none => (false,r.prune now)

/-- The clock stands still while the token is retired. -/
def retire (r : Registry) (now : Nat) (t : DispatchToken) : Bool × Registry :=
  r.retireAt now now t

def liveCount (r : Registry) : Nat := r.live.size

end Registry

end BuildFarm
