import BuildFarm.Json.Cursor

namespace BuildFarm.Json.Reader

/-- A value of four hexadecimal digits, of which `left` bytes are still to come. -/
def hexFrom (left : Nat) (value : Option Nat) (place : Place) :
    List Glyph → Except Stop (Nat × Cursor)
  | [] =>
    let c : Cursor := ⟨[],place⟩
    match left,value with
    | 0,some n => .ok (n,c)
    | 0,none => .error (c.stop .escape)
    | _,_ => .error (c.stop .endInText)
  | g :: rest =>
    let c : Cursor := ⟨g :: rest,place⟩
    match left,value with
    | 0,some n => .ok (n,c)
    | 0,none => .error (c.stop .escape)
    | _,_ =>
      if left < g.width then .error ⟨⟨.escape,⟨place.line,place.column + left⟩⟩,c⟩
      else
        let digit := g.char?.bind Text.hexValue?
        hexFrom (left - g.width) (do return (← value) * 16 + (← digit)) (place.after g) rest

def hexEscape : Reader Nat :=
  fun c => hexFrom 4 (some 0) c.place c.rest

/-- Another byte in the place of the mark is taken all the same. -/
def trailExpected (mark : Char) : Reader Unit :=
  fun c =>
    match c.rest with
    | [] => .error (c.stop .endInText)
    | g :: _ =>
      if g = .char mark then .ok ((),c.pastByte)
      else .error (c.pastByte.stop .surrogateEnd)

/-- A code point beyond the first 65536 is written as a pair of escapes. -/
def codePoint : Reader Char := do
  let n ← hexEscape
  if 0xDC00 ≤ n ∧ n ≤ 0xDFFF then fail .loneSurrogate
  else if n < 0xD800 ∨ 0xDBFF < n then return Char.ofNat n
  else
    trailExpected '\\'
    trailExpected 'u'
    let m ← hexEscape
    if m < 0xDC00 ∨ 0xDFFF < m then fail .loneSurrogate
    else return Char.ofNat ((n - 0xD800) * 1024 + (m - 0xDC00) + 0x10000)

/-- What follows a backslash. -/
def escape : Reader Char := do
  match ← peek with
  | none => fail .endInText
  | some (.char '"') => skip; return '"'
  | some (.char '\\') => skip; return '\\'
  | some (.char '/') => skip; return '/'
  | some (.char 'b') => skip; return Char.ofNat 8
  | some (.char 'f') => skip; return Char.ofNat 12
  | some (.char 'n') => skip; return '\n'
  | some (.char 'r') => skip; return '\r'
  | some (.char 't') => skip; return '\t'
  | some (.char 'u') => skip; codePoint
  | some _ => failAhead .escape

/-- Every step takes at least one glyph, so the text itself bounds the steps. `broken` counts
the bytes of what is spelled so far, from the first byte on that is part of no character. -/
def textFrom (bound : List Glyph) (read : List Char) (broken : Option Nat) : Reader String :=
  fun c =>
    match bound with
    | [] => .error (c.stop .endInText)
    | _ :: bound =>
      match c.rest with
      | [] => .error (c.stop .endInText)
      | .stray b :: rest =>
        textFrom bound read (some (broken.getD 0 + 1)) ⟨rest,c.place.after (.stray b)⟩
      | .char x :: rest =>
        let past : Cursor := ⟨rest,c.place.after (.char x)⟩
        if x = '"' then
          match broken with
          | none => .ok (String.ofList read.reverse,past)
          | some n => .error ⟨⟨.codePoint,⟨past.place.line,past.place.column - n⟩⟩,past⟩
        else if x = '\\' then
          match escape past with
          | .ok (y,c) => textFrom bound (y :: read) (broken.map (· + y.utf8Size)) c
          | .error e => .error e
        else if x.toNat < 32 then .error (c.stopAhead .controlCharacter)
        else textFrom bound (x :: read) (broken.map (· + x.utf8Size)) past

/-- The text up to the closing quote; the opening one is read. -/
def textRest : Reader String :=
  fun c => textFrom c.rest [] none c

/-- Passes over a text without looking at its characters. -/
def skipTextFrom (bound : List Glyph) : Reader Unit :=
  fun c =>
    match bound with
    | [] => .error (c.stop .endInText)
    | _ :: bound =>
      match c.rest with
      | [] => .error (c.stop .endInText)
      | .stray b :: rest => skipTextFrom bound ⟨rest,c.place.after (.stray b)⟩
      | .char x :: rest =>
        let past : Cursor := ⟨rest,c.place.after (.char x)⟩
        if x = '"' then .ok ((),past)
        else if x = '\\' then
          match rest with
          | .char 'u' :: more =>
            match hexEscape ⟨more,past.place.after (.char 'u')⟩ with
            | .ok (_,c) => skipTextFrom bound c
            | .error e => .error e
          | _ =>
            match escape past with
            | .ok (_,c) => skipTextFrom bound c
            | .error e => .error e
        else if x.toNat < 32 then .error (c.stop .controlCharacter)
        else skipTextFrom bound past

def skipTextRest : Reader Unit :=
  fun c => skipTextFrom c.rest c

end BuildFarm.Json.Reader
