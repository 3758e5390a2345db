import BuildFarm.Table
import BuildFarm.Url.Host

namespace BuildFarm

/-- Who asks, as it is written in an address. -/
structure Login where
  name : List Char
  password : Option (List Char)
deriving DecidableEq, Repr

structure Url where
  scheme : List Char
  login : Option Login
  host : Option (List Char)
  port : Option Nat
  path : List Char
  query : Option (List Char)
  fragment : Option (List Char)
deriving DecidableEq, Repr

namespace Url

def isSpecial (scheme : List Char) : Bool :=
  ["http","https","ws","wss","ftp","file"].contains (String.ofList scheme)

def defaultPort? (scheme : List Char) : Option Nat :=
  Table.find? [("http",80),("https",443),("ws",80),("wss",443),("ftp",21)] (String.ofList scheme)

/-- Controls and blanks at the ends, and tabs and line ends anywhere, do not count. -/
def cleaned (s : String) : List Char :=
  let edge (c : Char) : Bool := c.toNat ≤ 0x20
  let inner := ((s.toList.dropWhile edge).reverse.dropWhile edge).reverse
  inner.filter (fun c => c ≠ '\t' && c ≠ '\n' && c ≠ '\r')

def scheme? (cs : List Char) : Option (List Char × List Char) :=
  let isPart (c : Char) : Bool := c.isAlphanum || c = '+' || c = '-' || c = '.'
  match cs.head?,cs.dropWhile isPart with
  | some c,':' :: rest => if c.isAlpha then some ((cs.takeWhile isPart).map Char.toLower,rest) else none
  | _,_ => none

def inFragment (c : Char) : Bool :=
  isControl c || c = ' ' || c = '"' || c = '<' || c = '>' || c.toNat = 0x60

def inPath (c : Char) : Bool :=
  inFragment c || c = '#' || c = '?' || c = '{' || c = '}'

def inQuery (special : Bool) (c : Char) : Bool :=
  isControl c || c = ' ' || c = '"' || c = '#' || c = '<' || c = '>' || (special && c.toNat = 0x27)

/-- The part up to a mark, and what follows the mark if it is there. -/
def cutAt (c : Char) (cs : List Char) : List Char × Option (List Char) :=
  match cs.dropWhile (· ≠ c) with
  | [] => (cs,none)
  | _ :: rest => (cs.takeWhile (· ≠ c),some rest)

def unescapedDots (segment : List Char) : List Char :=
  match segment with
  | '%' :: '2' :: e :: rest =>
    if e = 'e' ∨ e = 'E' then '.' :: unescapedDots rest else segment
  | c :: rest => c :: unescapedDots rest
  | [] => []

/-- A letter and a colon or a bar name a drive. -/
def isDrive : List Char → Bool
  | [a,m] => a.isAlpha && (m = ':' || m = '|')
  | _ => false

/-- Dots do not lead out of a segment that opens with a drive. -/
def holdsDrive (segment : List Char) : Bool :=
  isDrive (segment.take 2) && (segment.length = 2 || (segment.drop 2).head? = some '\\')

/-- The first segment of a file's path may name a drive, and does so with a colon. -/
def segment (isFirstOfFile : Bool) (s : List Char) : List Char :=
  if isFirstOfFile ∧ isDrive s then s.take 1 ++ [':'] else Percent.encode inPath s

/-- Segments in reverse; a dot segment at the end leaves an empty one. -/
def settled (isFile : Bool) (kept : List (List Char)) : List (List Char) → List (List Char)
  | [] => kept.reverse
  | s :: rest =>
    let plain := unescapedDots s
    let kept :=
      if plain = ['.'] then kept
      else if plain = ['.','.'] then if kept.head?.any holdsDrive then kept else kept.drop 1
      else segment (isFile && kept.isEmpty) s :: kept
    if rest.isEmpty ∧ (plain = ['.'] ∨ plain = ['.','.']) then ([] :: kept).reverse
    else settled isFile kept rest

def segmentText (segments : List (List Char)) : List Char :=
  segments.flatMap ('/' :: ·)

/-- What follows the slash that opens a path. -/
def segments (special : Bool) (cs : List Char) : List (List Char) :=
  Text.pieces '/' (if special then cs.map (fun c => if c = '\\' then '/' else c) else cs)

/-- A path that starts with a slash. -/
def pathOf (special : Bool) (cs : List Char) : List Char :=
  segmentText (settled false [] (segments special (cs.drop 1)))

def fileSegments (kept : List (List Char)) (cs : List Char) : List (List Char) :=
  settled true kept (segments true cs)

/-- The path of a file. Empty segments at its start do not count. -/
def filePath (found : List (List Char)) : List Char :=
  match found.dropWhile List.isEmpty with
  | [] => ['/']
  | first :: rest => segmentText (first :: rest)

def inLogin (c : Char) : Bool :=
  inPath c || "/:;=@[\\]^|".toList.contains c

/-- An empty password counts as none. -/
def loginOf? (cs : List Char) : Option Login :=
  let (name,rest) := cutAt ':' cs
  let password := match rest with
    | none => none
    | some [] => none
    | some p => some (Percent.encode inLogin p)
  if name.isEmpty ∧ password.isNone then none else some ⟨Percent.encode inLogin name,password⟩

/-- Up to a colon outside brackets. -/
def spanHost (inside : Bool) : List Char → List Char × List Char
  | [] => ([],[])
  | c :: rest =>
    if c = ':' ∧ !inside then ([],c :: rest)
    else
      let (host,left) := spanHost (if c = '[' then true else if c = ']' then false else inside) rest
      (c :: host,left)

/-- The login, the host and the port of an authority, and what is left of it: a backslash
ends the port in any scheme. An empty host has no port, and nobody asks there; the mark of an
asker may stand alone if nothing follows. -/
def authority? (scheme : List Char) (isLast : Bool) (cs : List Char) :
    Option (Option Login × List Char × Option Nat × List Char) := do
  let special := isSpecial scheme
  let place := (cs.reverse.takeWhile (· ≠ '@')).reverse
  let asking := cs.take (cs.length - place.length)
  let login := loginOf? asking.dropLast
  let (host,rest) := spanHost false place
  let digits := (rest.drop 1).takeWhile Text.isDigit
  let left := (rest.drop 1).dropWhile Text.isDigit
  let port := if digits.isEmpty then none else some (Text.ofDigits digits)
  if left.head?.any (· ≠ '\\') ∨ 65535 < Text.ofDigits digits then none
  else if host.isEmpty then
    if special ∨ login.isSome ∨ (asking = ['@'] ∧ !isLast) ∨ rest ≠ [] then none
    else some (none,[],none,left)
  else
    let text ← host? special host
    return (login,text,if port = defaultPort? scheme then none else port,left)

/-- A file on this machine has no host. -/
def fileHost? (cs : List Char) : Option (Option (List Char)) :=
  if cs.isEmpty then some none
  else (host? true cs).map (fun h => if h = "localhost".toList then none else some h)

/-- Where a file is. A drive has no host. Where the host is left out, an empty segment stands
before the path. -/
def filePlace? (cs : List Char) : Option (Option (List Char) × List Char) :=
  let isSlash (c : Char) : Bool := c = '/' || c = '\\'
  if (cs.take 2).length = 2 ∧ (cs.take 2).all isSlash then do
    let name := (cs.drop 2).takeWhile (fun c => !isSlash c)
    let rest := (cs.drop 2).dropWhile (fun c => !isSlash c)
    if isDrive name then return (none,filePath (fileSegments [] (cs.drop 2)))
    else
      let host ← fileHost? name
      let found := fileSegments (if host.isNone then [[]] else []) (rest.drop 1)
      return (if found.head?.any isDrive then none else host,filePath found)
  else
    some (none,filePath (fileSegments [] (if cs.head?.any isSlash then cs.drop 1 else cs)))

/-- What stands between the scheme and a query or a fragment; `isLast` if there is neither. -/
def afterScheme? (scheme : List Char) (isLast : Bool) (cs : List Char) :
    Option (Option Login × Option (List Char) × Option Nat × List Char) :=
  let special := isSpecial scheme
  let isSlash (c : Char) : Bool := c = '/' || (special && c = '\\')
  let atAuthority (cs : List Char) :
      Option (Option Login × Option (List Char) × Option Nat × List Char) := do
    let rest := cs.dropWhile (fun c => !isSlash c)
    let (login,host,port,left) ←
      authority? scheme (isLast && rest.isEmpty) (cs.takeWhile (fun c => !isSlash c))
    let path :=
      if !left.isEmpty then pathOf false ('/' :: (left ++ rest))
      else if special ∨ rest ≠ [] then pathOf special rest
      else []
    return (login,some host,port,path)
  if scheme = "file".toList then (filePlace? cs).map (fun p => (none,p.1,none,p.2))
  else if special then atAuthority (cs.dropWhile isSlash)
  else
    match cs with
    | '/' :: '/' :: rest => atAuthority rest
    | '/' :: _ => some (none,none,none,pathOf false cs)
    | _ => some (none,none,none,Percent.encode isControl cs)

def parse? (s : String) : Option Url := do
  let (scheme,rest) ← scheme? (cleaned s)
  let (rest,fragment) := cutAt '#' rest
  let (rest,query) := cutAt '?' rest
  let (login,host,port,path) ← afterScheme? scheme (query.isNone && fragment.isNone) rest
  return ⟨scheme,login,host,port,path,query.map (Percent.encode (inQuery (isSpecial scheme))),
    fragment.map (Percent.encode inFragment)⟩

/-- What escapes stand for; none if that is no text. -/
def unescaped? (cs : List Char) : Option String :=
  (Percent.decode (Bytes.ofText (String.ofList cs))).text?

/-- The name and the password of who asks. A password that is no text counts as none; a name
that is none cannot be told. -/
def asker? (u : Url) : Option (String × Option String) := do
  let login ← u.login
  let name ← unescaped? login.name
  let password := login.password.bind unescaped?
  if name = "" ∧ password.isNone then none else some (name,password)

/-- The address alone, for those who can be told who asks. -/
def anonymous (u : Url) : Url :=
  if u.asker?.isSome then { u with login := none } else u

/-- What a request asks the host for. -/
def target (u : Url) : List Char :=
  u.path ++ (u.query.map ('?' :: ·)).getD []

def loginPart (u : Url) : List Char :=
  match u.login with
  | some l => l.name ++ (l.password.map (':' :: ·)).getD [] ++ ['@']
  | none => []

/-- What stands between the scheme and the path. Without a host, a path that opens with two
slashes must not be taken for one. -/
def hostPart (u : Url) : List Char :=
  match u.host with
  | some h => '/' :: '/' :: u.loginPart ++ h ++ (u.port.map (fun p => ':' :: Text.digits p)).getD []
  | none =>
    if u.scheme = "file".toList then ['/','/']
    else if u.path.take 2 = ['/','/'] then ['/','.']
    else []

def render (u : Url) : List Char :=
  u.scheme ++ ':' :: u.hostPart ++ u.target ++ (u.fragment.map ('#' :: ·)).getD []

def text (u : Url) : String :=
  String.ofList u.render

/-- The most characters of an address to which a request can be sent. -/
def maxLength : Nat := 65534

/-- Whether a request can be sent there. Some characters may stand in the name of a host,
but in no request. -/
def isWeb (u : Url) : Bool :=
  (u.scheme = "http".toList || u.scheme = "https".toList) && u.render.length ≤ maxLength &&
    u.host.any (fun h => h.all (fun c => !(['"','\x60','\x7b','\x7d'].contains c)))

end Url

end BuildFarm
