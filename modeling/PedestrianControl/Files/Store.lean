import PedestrianControl.Files.IoError
import PedestrianControl.Files.Path
import PedestrianControl.Text.Utf8

/-!
# The file store

Files and directories by their location, which is the list of names from the root. Paths are followed name by
name: each step needs a directory to stand in, two dots lead to the directory above, and there are no
links. An operation fails with the error that the operating system gives.

There are files and directories and nothing else: no permissions, no special files, and no disk that is full or
breaks. So an operation fails for the path that it is given, and a write fails before anything is written or not at
all.
-/

namespace PedestrianControl

/-- Where something is: the names from the root down to it. -/
abbrev Location := List String

/-- What can be at a location. -/
inductive Entry
  | directory
  | file (content : List UInt8)
deriving DecidableEq, Inhabited, Repr

/-- Files and directories, and the directory where relative paths start. -/
structure FileStore where
  entries : List (Location × Entry)
  workingDirectory : Location
deriving DecidableEq, Inhabited, Repr

/-- Works on a file store and may fail; what was done before the failure stays done. -/
abbrev FileAction := EStateM IoError FileStore

namespace FileStore

/-- What is at a location. The root is always a directory. -/
def at? (s : FileStore) (location : Location) : Option Entry :=
  if location.isEmpty then some .directory else s.entries.lookup location

/-- Puts something at a location, in place of what was there. -/
def put (location : Location) (entry : Entry) : List (Location × Entry) → List (Location × Entry)
  | [] => [(location, entry)]
  | (l, e) :: rest => if l = location then (l, entry) :: rest else (l, e) :: put location entry rest

/-- The store with something at a location. -/
def set (s : FileStore) (location : Location) (entry : Entry) : FileStore :=
  { s with entries := put location entry s.entries }

/-- A store with a working directory and nothing else. -/
def inDirectory (location : Location) : FileStore :=
  { entries := ((Path.beginnings location).reverse).map fun l => (l, .directory)
    workingDirectory := location }

/-! ## Following paths -/

/-- The longest name that a directory takes, in bytes. -/
def nameLimit : Nat := 255

/-- The longest path that the operating system takes, in bytes. -/
def pathLimit : Nat := 4095

/-- Where a path leads. -/
inductive Target
  | present (location : Location) (entry : Entry)
  /-- Nothing is there, but the directory for it is. -/
  | absent (directory : Location) (name : String)
deriving DecidableEq, Inhabited, Repr

/-- Follows names from a location. -/
def follow (s : FileStore) (location : Location) : List String → Except IoError Target
  | [] =>
    match s.at? location with
    | some entry => .ok (.present location entry)
    | none => .error .notFound
  | name :: rest =>
    if s.at? location ≠ some .directory then .error .notADirectory
    else if name = "." then follow s location rest
    else if name = ".." then follow s location.dropLast rest
    else if nameLimit < name.utf8ByteSize then .error .fileNameTooLong
    else
      match s.at? (location ++ [name]), rest with
      | some _, rest => follow s (location ++ [name]) rest
      | none, [] => .ok (.absent location name)
      | none, _ => .error .notFound

/-- Follows a path to its last name, whatever that turns out to be. -/
def trace (s : FileStore) (path : String) : Except IoError Target :=
  if path.toList.contains '\x00' then .error .nulInPath
  else if path.isEmpty then .error .notFound
  else if pathLimit < path.utf8ByteSize then .error .fileNameTooLong
  else follow s (if Path.isAbsolute path then [] else s.workingDirectory) (Path.pieces path)

/-- Follows a path. A slash at its end asks for a directory. -/
def locate (s : FileStore) (path : String) : Except IoError Target :=
  match s.trace path with
  | .ok (.present location (.file content)) =>
    if path.endsWith "/" then .error .notADirectory else .ok (.present location (.file content))
  | found => found

/-! ## Operations -/

/-- The content of the file at a path. -/
def read (s : FileStore) (path : String) : Except IoError (List UInt8) := do
  match ← s.locate path with
  | .present _ (.file content) => .ok content
  | .present _ .directory => .error .isADirectory
  | .absent .. => .error .notFound

/-- The text of the file at a path. -/
def readText (s : FileStore) (path : String) : Except IoError String := do
  match Utf8.decode (← s.read path) with
  | .ok text => .ok text
  | .error _ => .error .notText

/-- Whether a path leads to a directory. -/
def isDirectory (s : FileStore) (path : String) : Bool :=
  match s.locate path with
  | .ok (.present _ .directory) => true
  | _ => false

/-- Gives the file at a path a new content, making it if there is none. Where it fails nothing was written; that a
content is written in part is no case of it. -/
def write (path : String) (content : List UInt8) : FileAction PUnit := fun s =>
  match s.locate path with
  | .ok (.present location (.file _)) => .ok ⟨⟩ (s.set location (.file content))
  | .ok (.absent directory name) =>
    if path.endsWith "/" then .error .isADirectory s
    else .ok ⟨⟩ (s.set (directory ++ [name]) (.file content))
  | .ok (.present _ .directory) => .error .isADirectory s
  | .error e => .error e s

/-- Makes one directory. It is taken for granted that the path asks for one, with or without a slash at its
end. -/
def makeDirectory (path : String) : FileAction PUnit := fun s =>
  match s.trace path with
  | .ok (.absent directory name) => .ok ⟨⟩ (s.set (directory ++ [name]) .directory)
  | .ok (.present ..) => .error .alreadyExists s
  | .error e => .error e s

/-- Makes a directory unless it is there already. -/
def ensureDirectory (path : String) : FileAction PUnit := fun s =>
  match makeDirectory path s with
  | .ok _ s => .ok ⟨⟩ s
  | .error e s => if s.isDirectory path then .ok ⟨⟩ s else .error e s

/-- Makes the first of some paths a directory, the others being the directories above it. -/
def ensureTree : List String → FileAction PUnit
  | [] => return ⟨⟩
  | path :: above => fun s =>
    match ensureDirectory path s with
    | .error e s =>
      if e.kind = .notFound then
        (do ensureTree above; ensureDirectory path : FileAction PUnit) s
      else .error e s
    | made => made

/-- Makes a directory and those above it as far as they are missing. -/
def ensureDirectories (path : String) : FileAction PUnit :=
  match Path.ancestors path with
  | [] => return ⟨⟩
  | paths => ensureTree paths

/-- Writes a file, after making the directories above it as far as they are missing. -/
def place (path : String) (content : List UInt8) : FileAction PUnit := do
  ensureTree ((Path.ancestors path).drop 1)
  write path content

/-- The files below a directory of the working directory, with their paths from there, by path. -/
def filesBelow (s : FileStore) (directory : String) : List (String × List UInt8) :=
  let top := s.workingDirectory ++ [directory]
  let found := s.entries.filterMap fun (location, entry) =>
    match entry with
    | .file content =>
      if top.isPrefixOf location && location != top then
        some ("/".intercalate (location.drop s.workingDirectory.length), content)
      else none
    | .directory => none
  found.mergeSort fun a b => a.1 ≤ b.1

end FileStore

end PedestrianControl
