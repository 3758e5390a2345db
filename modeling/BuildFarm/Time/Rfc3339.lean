import BuildFarm.Text.Blank
import BuildFarm.Text.Hex
import BuildFarm.Time.Calendar

namespace BuildFarm.Rfc3339

open Text

def secondsPerDay : Int := 86400

def yearText (y : Int) : List Char :=
  if 0 ≤ y ∧ y ≤ 9999 then padded 4 y.toNat
  else (if y < 0 then '-' else '+') :: padded 4 y.natAbs

def decimals (nanos : Nat) : List Char :=
  if nanos = 0 then []
  else if nanos % 1000000 = 0 then '.' :: padded 3 (nanos / 1000000)
  else if nanos % 1000 = 0 then '.' :: padded 6 (nanos / 1000)
  else '.' :: padded 9 nanos

def render (t : Instant) : List Char :=
  let d := Date.ofDays (t.seconds / secondsPerDay)
  let s := (t.seconds % secondsPerDay).toNat
  let (second,nanos) :=
    if t.isLeap then (s % 60 + 1,t.nanos - nanosPerSecond) else (s % 60,t.nanos)
  yearText d.year ++ '-' :: padded 2 d.month ++ '-' :: padded 2 d.day ++
    'T' :: padded 2 (s / 3600) ++ ':' :: padded 2 (s / 60 % 60) ++ ':' :: padded 2 second ++
    decimals nanos ++ ['Z']

inductive Fault
  | outOfRange
  | impossible
  | invalid
  | tooShort
  | tooLong
deriving DecidableEq, Repr

def Fault.message : Fault → String
  | .outOfRange => "input is out of range"
  | .impossible => "no possible date and time matching input"
  | .invalid => "input contains invalid characters"
  | .tooShort => "premature end of input"
  | .tooLong => "trailing input"

/-- Takes a part from the front of the text. -/
abbrev Part (α : Type) := List Char → Except Fault (α × List Char)

/-- At least one digit and at most so many; beyond 64 bits there is no number. -/
def number (most : Nat) : Part Nat := fun cs =>
  let ds := (cs.take most).takeWhile isDigit
  if ds.isEmpty then .error (if cs.isEmpty then .tooShort else .invalid)
  else if 0x8000000000000000 ≤ ofDigits ds then .error .outOfRange
  else .ok (ofDigits ds,cs.drop ds.length)

def numberWithin (low high : Nat) : Part Nat := fun cs => do
  let (n,cs) ← number 2 (trimStart cs)
  if low ≤ n ∧ n ≤ high then .ok (n,cs) else .error .outOfRange

/-- A sign lifts the limit of four digits. -/
def year : Part Int := fun cs => do
  let (y,cs) ←
    match trimStart cs with
    | '-' :: rest => (number rest.length rest).map (fun (n,cs) => (-(n : Int),cs))
    | '+' :: rest => (number rest.length rest).map (fun (n,cs) => ((n : Int),cs))
    | cs => (number 4 cs).map (fun (n,cs) => ((n : Int),cs))
  if -0x80000000 ≤ y ∧ y < 0x80000000 then .ok (y,cs) else .error .outOfRange

/-- A mark between two numbers; blanks may stand before it. -/
def mark (c : Char) : Part Unit := fun cs =>
  match trimStart cs with
  | [] => .error .tooShort
  | d :: rest => if d = c then .ok ((),rest) else .error .invalid

/-- Of the decimals nine count. -/
def fraction : Part Nat := fun cs =>
  match cs with
  | '.' :: rest => do
    let (n,after) ← number 9 rest
    .ok (n * Nat.pow 10 (9 - (rest.length - after.length)),after.dropWhile isDigit)
  | _ => .ok (0,cs)

def twoDigits (tens : Nat) : Part Nat := fun cs =>
  match cs with
  | [] => .error .tooShort
  | [c] => .error (if c.utf8Size < 2 then .tooShort else .invalid)
  | c :: d :: rest =>
    if isDigit c && isDigit d then
      if tens < digitValue c then .error .outOfRange
      else .ok (digitValue c * 10 + digitValue d,rest)
    else .error .invalid

/-- Seconds east of universal time. -/
def offset : Part Int := fun cs =>
  match cs with
  | [] => .error .tooShort
  | c :: rest =>
    if c = 'Z' ∨ c = 'z' then .ok (0,rest)
    else if c = '+' ∨ c = '-' ∨ c = '\u2212' then do
      let (hours,rest) ← twoDigits 9 rest
      let (minutes,rest) ← twoDigits 5 (rest.dropWhile (fun c => c = ':' || isBlank c))
      let seconds : Int := hours * 3600 + minutes * 60
      .ok (if c = '+' then seconds else -seconds,rest)
    else .error .invalid

def isUtc (cs : List Char) : Bool :=
  (cs.take 3).map Char.toUpper = ['U','T','C']

def zone : Part Int := fun cs =>
  if isUtc cs then .ok (0,cs.drop 3) else offset cs

def parse (s : String) : Except Fault Instant := do
  let (y,cs) ← year s.toList
  let (_,cs) ← mark '-' cs
  let (month,cs) ← numberWithin 1 12 cs
  let (_,cs) ← mark '-' cs
  let (day,cs) ← numberWithin 1 31 cs
  let cs ←
    match cs with
    | [] => .error .tooShort
    | c :: rest => if c = 't' ∨ c = 'T' ∨ c = ' ' then .ok rest else .error .invalid
  let (hour,cs) ← numberWithin 0 23 cs
  let (_,cs) ← mark ':' cs
  let (minute,cs) ← numberWithin 0 59 cs
  let (_,cs) ← mark ':' cs
  let (second,cs) ← numberWithin 0 60 cs
  let (nanos,cs) ← fraction cs
  let (east,cs) ← zone (trimStart cs)
  if !(trimStart cs).isEmpty then .error .tooLong
  let date : Date := ⟨y,month,day⟩
  if !date.isValid then .error .outOfRange
  if !(-secondsPerDay < east ∧ east < secondsPerDay) then .error .outOfRange
  let (second,nanos) := if second = 60 then (59,nanos + nanosPerSecond) else (second,nanos)
  let t : Instant := ⟨date.toDays * secondsPerDay + hour * 3600 + minute * 60 + second - east,nanos⟩
  if t.representable then .ok t else .error .impossible

end BuildFarm.Rfc3339
