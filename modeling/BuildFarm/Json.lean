import BuildFarm.Number.Shortest
import BuildFarm.Table

namespace BuildFarm

inductive Json
  | null
  | bool (b : Bool)
  | int (n : Int)
  | float (x : Binary64)
  | text (s : String)
  | array (items : List Json)
  | object (members : List (String × Json))
deriving Repr, Inhabited

namespace Json

def least : Int := -0x8000000000000000

def greatest : Int := 0xFFFFFFFFFFFFFFFF

def ofNat (n : Nat) : Json :=
  .int n

def ofOption (j : Option Json) : Json :=
  j.getD .null

def member? : Json → String → Option Json
  | .object members,k => Table.find? members k
  | _,_ => none

/-- Control characters, the quote and the backslash are escaped; all else stands for itself. -/
def escapeChar (c : Char) : List Char :=
  if c = '"' then ['\\','"']
  else if c = '\\' then ['\\','\\']
  else if c = '\n' then ['\\','n']
  else if c = '\r' then ['\\','r']
  else if c = '\t' then ['\\','t']
  else if c.toNat = 8 then ['\\','b']
  else if c.toNat = 12 then ['\\','f']
  else if c.toNat < 32 then '\\' :: 'u' :: Text.hexDigits 4 c.toNat
  else [c]

def textLiteral (s : String) : List Char :=
  '"' :: (s.toList.flatMap escapeChar ++ ['"'])

def intLiteral (n : Int) : List Char :=
  if n < 0 then '-' :: Text.digits n.natAbs else Text.digits n.natAbs

def boolLiteral (b : Bool) : List Char :=
  if b then ['t','r','u','e'] else ['f','a','l','s','e']

def nullLiteral : List Char := ['n','u','l','l']

mutual

def compact : Json → List Char
  | .null => nullLiteral
  | .bool b => boolLiteral b
  | .int n => intLiteral n
  | .float x => x.text
  | .text s => textLiteral s
  | .array items => '[' :: compactItems items
  | .object members => '{' :: compactMembers members

def compactItems : List Json → List Char
  | [] => [']']
  | [j] => compact j ++ [']']
  | j :: k :: rest => compact j ++ ',' :: compactItems (k :: rest)

def compactMembers : List (String × Json) → List Char
  | [] => ['}']
  | [(s,j)] => textLiteral s ++ ':' :: (compact j ++ ['}'])
  | (s,j) :: k :: rest => textLiteral s ++ ':' :: (compact j ++ ',' :: compactMembers (k :: rest))

end

/-- A new line, indented to the level. -/
def newline (level : Nat) : List Char :=
  '\n' :: List.replicate (2 * level) ' '

mutual

def pretty (level : Nat) : Json → List Char
  | .null => nullLiteral
  | .bool b => boolLiteral b
  | .int n => intLiteral n
  | .float x => x.text
  | .text s => textLiteral s
  | .array [] => ['[',']']
  | .array (j :: rest) => '[' :: prettyItems level (j :: rest)
  | .object [] => ['{','}']
  | .object (m :: rest) => '{' :: prettyMembers level (m :: rest)

def prettyItems (level : Nat) : List Json → List Char
  | [] => newline level ++ [']']
  | [j] => newline (level + 1) ++ pretty (level + 1) j ++ newline level ++ [']']
  | j :: k :: rest => newline (level + 1) ++ pretty (level + 1) j ++ ',' :: prettyItems level (k :: rest)

def prettyMembers (level : Nat) : List (String × Json) → List Char
  | [] => newline level ++ ['}']
  | [(s,j)] =>
    newline (level + 1) ++ textLiteral s ++ ':' :: ' ' :: (pretty (level + 1) j ++ newline level ++ ['}'])
  | (s,j) :: k :: rest =>
    newline (level + 1) ++ textLiteral s ++ ':' :: ' ' ::
      (pretty (level + 1) j ++ ',' :: prettyMembers level (k :: rest))

end

def compactText (j : Json) : String :=
  String.ofList (compact j)

def prettyText (j : Json) : String :=
  String.ofList (pretty 0 j)

mutual

/-- The members of every object in the order of their keys, the last one of each key. -/
def sorted : Json → Json
  | .array items => .array (sortedItems items)
  | .object members => .object (Table.ofList (sortedMembers members))
  | j => j

def sortedItems : List Json → List Json
  | [] => []
  | j :: rest => sorted j :: sortedItems rest

def sortedMembers : List (String × Json) → List (String × Json)
  | [] => []
  | (k,j) :: rest => (k,sorted j) :: sortedMembers rest

end

mutual

/-- The number of brackets that are open at once at the deepest point. -/
def depth : Json → Nat
  | .array items => depthItems items + 1
  | .object members => depthMembers members + 1
  | _ => 0

def depthItems : List Json → Nat
  | [] => 0
  | j :: rest => max (depth j) (depthItems rest)

def depthMembers : List (String × Json) → Nat
  | [] => 0
  | (_,j) :: rest => max (depth j) (depthMembers rest)

end

end Json

end BuildFarm
