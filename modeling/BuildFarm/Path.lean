import BuildFarm.Text.Blank

namespace BuildFarm

abbrev Path := String

namespace Path

def join (folder : Path) (name : String) : Path :=
  if folder.toList.getLast? = some '/' ∨ folder = "" then folder ++ name
  else folder ++ "/" ++ name

/-- The components that are not empty. -/
def names (p : Path) : List String :=
  (((Text.pieces '/' p.toList).filter (· ≠ [])).map String.ofList)

/-- A slash at the end asks for a folder. -/
def asksForFolder (p : Path) : Bool :=
  p.toList.getLast? = some '/'

end Path

end BuildFarm
