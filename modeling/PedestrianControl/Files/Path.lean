/-!
# Paths

A path is a text; slashes separate its components. Empty components mean nothing, and neither does a single
dot. A path that begins with a slash starts at the root, any other at the working directory.
-/

namespace PedestrianControl.Path

/-- The pieces of a path between slashes, the empty ones left out. -/
def pieces (path : String) : List String :=
  ((path.toList.splitOn '/').filter fun piece => !piece.isEmpty).map String.ofList

/-- Whether a path starts at the root. -/
def isAbsolute (path : String) : Bool := path.startsWith "/"

/-- The components of a path: its pieces without single dots. -/
def components (path : String) : List String := (pieces path).filter fun piece => piece != "."

/-- The last component, if it names something: not of an empty path or the root, and not `..`. -/
def fileName? (path : String) : Option String :=
  match (components path).getLast? with
  | some name => if name = ".." then none else some name
  | none => none

/-- A name without its extension, which begins at the last point unless that is also the first
character. -/
def stemOf (name : String) : String :=
  match name.toList.reverse.dropWhile (· != '.') with
  | '.' :: c :: rest => String.ofList (c :: rest).reverse
  | _ => name

/-- The last component without its extension. -/
def stem? (path : String) : Option String := (fileName? path).map stemOf

/-- A path with a name below it. -/
def join (directory name : String) : String :=
  if directory.isEmpty || directory.endsWith "/" then directory ++ name
  else directory ++ "/" ++ name

/-- The path of some components. -/
def ofComponents (absolute : Bool) (parts : List String) : String :=
  (if absolute then "/" else "") ++ String.intercalate "/" parts

/-- The nonempty beginnings of a list, the longest first. -/
def beginnings {α : Type} (as : List α) : List (List α) :=
  ((List.range as.length).map fun n => as.take (n + 1)).reverse

/-- A path and the directories above it, the path first. The empty path and the working directory it
stands for are not among them. -/
def ancestors (path : String) : List String :=
  let absolute := isAbsolute path
  let parts := components path
  let named := (beginnings parts).map (ofComponents absolute)
  let leading := if absolute then ["/"] else if (pieces path).head? = some "." then ["."] else []
  match named ++ leading with
  | [] => []
  | _ :: above => path :: above

end PedestrianControl.Path
