import BuildFarm.Body
import BuildFarm.Json

namespace BuildFarm.Http

/-- Header names are told apart without regard to case. -/
structure Request where
  method : String
  target : String
  headers : List (String × Bytes)
  body : Body
deriving Repr

namespace Request

def header? (r : Request) (name : String) : Option Bytes :=
  (r.headers.find? (fun h => h.1.toLower = name)).map Prod.snd

/-- A header of visible characters, blanks and tabs; any other has no text. -/
def headerText? (r : Request) (name : String) : Option String := do
  let bs ← r.header? name
  if bs.all (fun b => (32 ≤ b && b < 127) || b = 9) then
    some (String.ofList (bs.map (fun b => Char.ofNat b.toNat)))
  else none

def afterAuthority (cs : List Char) : List Char :=
  cs.dropWhile (fun c => c ≠ '/' && c ≠ '?' && c ≠ '#')

def withoutScheme (cs : List Char) : List Char :=
  if cs.head? = some '/' then cs
  else
    match cs.dropWhile (· ≠ ':') with
    | ':' :: '/' :: '/' :: rest => afterAuthority rest
    | _ => cs

/-- The target up to its query. -/
def path (r : Request) : List Char :=
  (withoutScheme r.target.toList).takeWhile (fun c => c ≠ '?' && c ≠ '#')

end Request

structure Reply where
  status : Nat
  headers : List (String × String)
  body : String
deriving DecidableEq, Repr

namespace Reply

def empty (status : Nat) : Reply := ⟨status,[],""⟩

def json (status : Nat) (j : Json) : Reply :=
  ⟨status,[("content-type","application/json")],j.compactText⟩

def plain (status : Nat) (s : String) : Reply :=
  ⟨status,[("content-type","text/plain; charset=utf-8")],s⟩

/-- A failure, by a code for programs and a message for people. -/
def failure (status : Nat) (code message : String) : Reply :=
  json status (.object [("error",.text code),("message",.text message)])

def isSuccess (r : Reply) : Bool :=
  200 ≤ r.status && r.status < 300

/-- Tells the length of the body in bytes. -/
def sized (r : Reply) : Reply :=
  { r with headers := ("content-length",toString r.body.utf8ByteSize) :: r.headers }

def allowing (methods : String) (r : Reply) : Reply :=
  { r with headers := ("allow",methods) :: r.headers }

/-- The headers alone. -/
def headOnly (r : Reply) : Reply :=
  { r with body := "" }

end Reply

end BuildFarm.Http
