import BuildFarm.Text.Percent

namespace BuildFarm.Form

def contentType : String := "application/x-www-form-urlencoded"

def isPlain (c : Char) : Bool :=
  c.isAlphanum || c = '*' || c = '-' || c = '.' || c = '_'

/-- A blank becomes a plus sign. -/
def encode (s : String) : List Char :=
  s.toList.flatMap (fun c =>
    if c = ' ' then ['+'] else Percent.encode (fun c => !isPlain c) [c])

def pair (entry : String × String) : List Char :=
  encode entry.1 ++ '=' :: encode entry.2

def render (entries : List (String × String)) : List Char :=
  ((entries.map pair).intersperse ['&']).flatten

end BuildFarm.Form
