import PedestrianControl.Double

/-!
# TOML documents

The items of a TOML document, and the rules by which key paths and headers build up its tables: nothing is
defined twice, a header may complete a table that other headers only passed through, and dotted keys
extend tables made by dotted keys alone.
-/

namespace PedestrianControl.Toml

/-- A value or table of a document. A date or time is only known to be one. -/
inductive Item
  | text (s : String)
  | integer (n : Int)
  | float (d : Double)
  | boolean (b : Bool)
  | moment
  | array (items : List Item)
  /-- A table in braces; `dotted` if dotted keys made it, so that more of them may extend it. -/
  | inline (dotted : Bool) (entries : List (String × Item))
  /-- A table; `implicit` until a header names it, `dotted` if dotted keys made it. -/
  | table (implicit dotted : Bool) (entries : List (String × Item))
  /-- The tables of a repeated header, the last one first. -/
  | tables (elements : List (List (String × Item)))
deriving Inhabited

/-- Reads the text of a document: its entries, or the number of the line where reading it stopped. -/
abbrev Reader := String → Except Nat (List (String × Item))

/-- A table under construction. -/
structure Table where
  implicit : Bool
  dotted : Bool
  entries : List (String × Item)
deriving Inhabited

namespace Table

/-- A document without entries. -/
def root : Table := ⟨false, false, []⟩

/-- The table as an item. -/
def item (t : Table) : Item := .table t.implicit t.dotted t.entries

/-- The item of a key. -/
def get? (t : Table) (key : String) : Option Item := t.entries.lookup key

/-- The entries with an item for a key, in place of an earlier one. -/
def put (key : String) (item : Item) : List (String × Item) → List (String × Item)
  | [] => [(key, item)]
  | (k, i) :: rest => if k = key then (k, item) :: rest else (k, i) :: put key item rest

/-- The table with an item for a key, in place of an earlier one. -/
def set (t : Table) (key : String) (item : Item) : Table :=
  { t with entries := put key item t.entries }

/-- The table with an item for a new key. -/
def define (key : String) (item : Item) (t : Table) : Option Table :=
  match t.get? key with
  | some _ => none
  | none => some (t.set key item)

/-- Changes the table at the end of a path, making the missing tables on the way. Dotted keys do not enter
a table that a header has named. -/
def descend (byDots : Bool) (change : Table → Option Table) : List String → Table → Option Table
  | [], t => change t
  | key :: rest, t =>
    match t.get? key with
    | none => do
      let below ← descend byDots change rest ⟨true, byDots, []⟩
      some (t.set key below.item)
    | some (.table implicit dotted entries) =>
      if byDots && !implicit then none
      else do
        let below ← descend byDots change rest ⟨implicit, dotted, entries⟩
        some (t.set key below.item)
    | some (.tables (last :: earlier)) => do
      let below ← descend byDots change rest ⟨false, false, last⟩
      some (t.set key (.tables (below.entries :: earlier)))
    | some _ => none

/-- Defines a key that stands under a dotted path. A table made by dotted keys takes no plain key, and other
tables take no dotted one. -/
def assign (path : List String) (key : String) (item : Item) (t : Table) : Option Table :=
  descend true (fun t => if t.dotted == path.isEmpty then none else define key item t) path t

/-- Names a table by a header. -/
def openTable (path : List String) (key : String) (t : Table) : Option Table :=
  descend false
    (fun t =>
      match t.get? key with
      | none => some (t.set key (.table false false []))
      | some (.table true false entries) => some (t.set key (.table false false entries))
      | some _ => none)
    path t

/-- Adds a table by a repeated header. -/
def openElement (path : List String) (key : String) (t : Table) : Option Table :=
  descend false
    (fun t =>
      match t.get? key with
      | none => some (t.set key (.tables [[]]))
      | some (.tables elements) => some (t.set key (.tables ([] :: elements)))
      | some _ => none)
    path t

/-! ## Tables in braces -/

/-- Changes the table in braces at the end of a path of dotted keys. -/
def descendInline (change : List (String × Item) → Option (List (String × Item))) :
    List String → List (String × Item) → Option (List (String × Item))
  | [], entries => change entries
  | key :: rest, entries =>
    match entries.lookup key with
    | none => do some (put key (.inline true (← descendInline change rest [])) entries)
    | some (.inline true below) => do
      some (put key (.inline true (← descendInline change rest below)) entries)
    | some _ => none

/-- Defines a key that stands under a dotted path in braces. -/
def assignInline (path : List String) (key : String) (item : Item)
    (entries : List (String × Item)) : Option (List (String × Item)) :=
  descendInline
    (fun entries =>
      match entries.lookup key with
      | some _ => none
      | none => some (put key item entries))
    path entries

end Table

end PedestrianControl.Toml
