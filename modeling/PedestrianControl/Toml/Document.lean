import PedestrianControl.Toml.Number
import PedestrianControl.Toml.Text

/-!
# Reading documents

A document is a run of lines: keys with values, headers of tables, comments and blank lines. Keys and headers
build up the table that the document is. Arrays and tables in braces may be nested in one another, but not
to any depth, and key paths are bounded in the same way.
-/

namespace PedestrianControl.Toml

namespace Scan

/-- The most levels of arrays and tables in braces. -/
def nestingLimit : Nat := 79

/-- The parts of a key path stay below this number. -/
def pathLimit : Nat := 80

/-- One part of a key: bare or between quotes. -/
def keyPart (limit : Nat) : Scan String := do
  spaces
  let part ← match ← peek with
    | some '"' | some '\'' => shortText limit
    | _ => String.ofList <$> some' fun c => c.isAlphanum || c == '_' || c == '-'
  spaces
  return part

/-- A key with dots between its parts: the path to it and its own name. -/
def key (limit : Nat) : Scan (List String × String) := do
  let parts ← separated (keyPart limit) (do let _ ← char '.') limit
  match parts.getLast? with
  | some last => if parts.length < pathLimit then return (parts.dropLast, last) else failure
  | none => failure

/-- A key and its value. -/
def entry (limit : Nat) (value : Scan Item) : Scan ((List String × String) × Item) := do
  let k ← key limit
  let _ ← char '='
  spaces
  return (k, ← value)

/-- The entries of a table in braces put together. -/
def assemble : List ((List String × String) × Item) → Option (List (String × Item)) :=
  fun entries => entries.foldlM (fun t e => Table.assignInline e.1.1 e.1.2 e.2 t) []

/-- What follows the brace of a table. -/
def inlineRest (limit : Nat) (value : Scan Item) : Scan Item := do
  let entries ← optional (separated (do let e ← entry limit value; spaces; return e)
    (do let _ ← char ',') limit)
  spaces
  let _ ← char '}'
  match assemble (entries.getD []) with
  | some t => return .inline false t
  | none => failure

/-- What follows the bracket of an array: values with commas between them and perhaps one after the last,
on any number of lines. -/
def arrayRest (value : Scan Item) : Nat → List Item → Scan Item
  | 0, _ => failure
  | limit + 1, done => do
    gap (limit + 1)
    match ← optional (char ']') with
    | some _ => return .array done.reverse
    | none => do
      let item ← value
      gap (limit + 1)
      match ← optional (char ',') with
      | some _ => arrayRest value limit (item :: done)
      | none => do
        let _ ← char ']'
        return .array (item :: done).reverse

/-- A value, `inner` reading the values in arrays and tables; without it there may be none of these. -/
def valueAround (limit : Nat) (inner : Option (Scan Item)) : Scan Item := do
  match ← peek with
  | some '"' | some '\'' => return .text (← text limit)
  | some '[' =>
    match inner with
    | none => failure
    | some inner => do
      let _ ← char '['
      arrayRest inner limit []
  | some '{' =>
    match inner with
    | none => failure
    | some inner => do
      let _ ← char '{'
      inlineRest limit inner
  | some 't' => do word "true"; return .boolean true
  | some 'f' => do word "false"; return .boolean false
  | _ => number

/-- A value with at most so many levels of arrays and tables in it. -/
def value (limit : Nat) : (levels : Nat) → Scan Item
  | 0 => valueAround limit none
  | levels + 1 => valueAround limit (some (value limit levels))

/-- What a line does to the document. -/
inductive Line
  | blank
  | entry (path : List String) (key : String) (item : Item)
  | table (path : List String) (key : String)
  | element (path : List String) (key : String)

/-- One line. A value may go over several. -/
def line (limit : Nat) : Scan Line := do
  spaces
  match ← peek with
  | none => return .blank
  | some '#' => do
    comment
    lineEnd
    return .blank
  | some '\n' | some '\r' => do
    newline
    return .blank
  | some '[' => do
    let _ ← char '['
    match ← optional (char '[') with
    | some _ => do
      let (path, name) ← key limit
      word "]]"
      lineRest
      return .element path name
    | none => do
      let (path, name) ← key limit
      let _ ← char ']'
      lineRest
      return .table path name
  | some _ => do
    let ((path, name), item) ← entry limit (value limit nestingLimit)
    lineRest
    return .entry path name item

end Scan

/-- A document being read: its table so far, and the path of the table that lines add to. -/
structure Draft where
  root : Table
  current : List String

namespace Draft

/-- What a line makes of the document, unless it breaks the rules of tables. -/
def add (d : Draft) : Scan.Line → Option Draft
  | .blank => some d
  | .entry path key item => do
    let root ← Table.descend false (Table.assign path key item) d.current d.root
    some { d with root }
  | .table path key => do
    some ⟨← Table.openTable path key d.root, path ++ [key]⟩
  | .element path key => do
    some ⟨← Table.openElement path key d.root, path ++ [key]⟩

/-- Reads lines up to the end, at most so many, or tells the number of the bad one. -/
def addLines (d : Draft) (number : Nat) : Nat → List Char → Except Nat Draft
  | 0, _ => .ok d
  | limit + 1, cs =>
    if cs.isEmpty then .ok d
    else
      match (Scan.line (cs.length + 1)) cs with
      | none => .error number
      | some (line, rest) =>
        match d.add line with
        | none => .error number
        | some d =>
          let taken := cs.take (cs.length - rest.length)
          addLines d (number + taken.count '\n') limit rest

end Draft

/-- The entries of a document, or the number of the line where reading it stopped. -/
def read : Reader := fun text =>
  let cs := match text.toList with
    | '\uFEFF' :: rest => rest
    | cs => cs
  match Draft.addLines ⟨.root, []⟩ 1 (cs.length + 1) cs with
  | .ok d => .ok d.root.entries
  | .error number => .error number

end PedestrianControl.Toml
