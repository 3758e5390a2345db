namespace BuildFarm.Url.Punycode

def digit (n : Nat) : Char :=
  if n < 26 then Char.ofNat (0x61 + n) else Char.ofNat (0x30 + (n - 26))

/-- The least value of a digit that another digit follows. -/
def threshold (place bias : Nat) : Nat :=
  max 1 (min 26 (36 * place - bias))

/-- A count, its last digit below the threshold of its place. There are fewer places than
`bound`. -/
def count (bias : Nat) (bound place n : Nat) : List Char :=
  match bound with
  | 0 => []
  | b + 1 =>
    let t := threshold place bias
    if n < t then [digit n]
    else digit (t + (n - t) % (36 - t)) :: count bias b (place + 1) ((n - t) / (36 - t))

def scaleDown (bound delta scale : Nat) : Nat :=
  match bound with
  | 0 => scale
  | b + 1 => if 455 < delta then scaleDown b (delta / 35) (scale + 36)
    else scale + 36 * delta / (delta + 38)

/-- Expects the next count to be about as long as this one. -/
def nextBias (delta letters : Nat) (isFirst : Bool) : Nat :=
  let d := if isFirst then delta / 700 else delta / 2
  scaleDown 64 (d + d / letters) 0

structure Progress where
  written : List Char
  /-- The steps since the last letter. -/
  steps : Nat
  bias : Nat
  letters : Nat

/-- Goes over the name once, to write each letter of one number. -/
def pass (base number : Nat) (name : List Char) (p : Progress) : Progress :=
  name.foldl (fun p c =>
    if c.toNat < number then { p with steps := p.steps + 1 }
    else if c.toNat = number then
      ⟨p.written ++ count p.bias 64 1 p.steps,0,
        nextBias p.steps (p.letters + 1) (p.letters = base),p.letters + 1⟩
    else p) p

def passes (base : Nat) (name : List Char) (reached : Nat) :
    List Nat → Progress → Progress
  | [],p => p
  | n :: rest,p =>
    let p := pass base n name { p with steps := p.steps + (n - reached) * (p.letters + 1) }
    passes base name (n + 1) rest { p with steps := p.steps + 1 }

def encode (name : List Char) : List Char :=
  let plain := name.filter (fun c => c.toNat < 0x80)
  let numbers := ((name.map Char.toNat).filter (0x80 ≤ ·)).eraseDups.mergeSort (· ≤ ·)
  let base := plain.length
  let p := passes base name 0x80 numbers
    ⟨if plain.isEmpty then [] else plain ++ ['-'],0,72,base⟩
  p.written

/-- Tells a label in Punycode from others. -/
def mark : List Char := ['x','n','-','-']

/-- A label that needs it is marked as such. -/
def label (name : List Char) : List Char :=
  if name.all (fun c => c.toNat < 0x80) then name
  else mark ++ encode name

def digitValue? (c : Char) : Option Nat :=
  if 'a' ≤ c ∧ c ≤ 'z' then some (c.toNat - 0x61)
  else if 'A' ≤ c ∧ c ≤ 'Z' then some (c.toNat - 0x41)
  else if '0' ≤ c ∧ c ≤ '9' then some (c.toNat - 0x30 + 26)
  else none

/-- A count and what follows its last digit. `weight` is the worth of a digit at the place. -/
def countOf? (bias place weight n : Nat) : List Char → Option (Nat × List Char)
  | [] => none
  | c :: rest =>
    match digitValue? c with
    | none => none
    | some d =>
      let t := threshold place bias
      if d < t then some (n + d * weight,rest)
      else countOf? bias (place + 1) (weight * (36 - t)) (n + d * weight) rest

/-- Puts in letter after letter. `place` and `number` are those of the next step. -/
def fill (bound : Nat) (name : List Char) (place number bias : Nat) (digits : List Char) :
    Option (List Char) :=
  match bound,digits with
  | _,[] => some name
  | 0,_ => none
  | n + 1,digits =>
    match countOf? bias 1 1 0 digits with
    | none => none
    | some (steps,rest) =>
      let letters := name.length + 1
      let number := number + (place + steps) / letters
      let before := (place + steps) % letters
      if 0x10FFFF < number ∨ (0xD800 ≤ number ∧ number ≤ 0xDFFF) then none
      else
        fill n (name.take before ++ Char.ofNat number :: name.drop before) (before + 1) number
          (nextBias steps letters (place = 0)) rest

/-- The name that is written so. The ASCII letters end at the last hyphen. -/
def decode? (cs : List Char) : Option (List Char) :=
  let digits := (cs.reverse.takeWhile (· ≠ '-')).reverse
  let plain := cs.take (cs.length - digits.length - 1)
  if plain.isEmpty then fill (cs.length + 1) [] 0 0x80 72 cs
  else fill (digits.length + 1) plain 0 0x80 72 digits

end BuildFarm.Url.Punycode
