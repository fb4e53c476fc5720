import PedestrianControl.Text.Hexadecimal

/-!
# Scanning

The small readers that a document's grammar is put together from. Each takes characters from the front or does
not apply; of two alternatives the second starts where the first did.
-/

namespace PedestrianControl.Toml

/-- Takes something from the front of the characters, or does not apply. -/
abbrev Scan := StateT (List Char) Option

namespace Scan

/-- The next character, left in place. -/
def peek : Scan (Option Char) := fun cs => some (cs.head?, cs)

/-- A character that fits. -/
def one (fits : Char → Bool) : Scan Char
  | c :: rest => if fits c then some (c, rest) else none
  | [] => none

/-- This character. -/
def char (c : Char) : Scan Char := one (· == c)

/-- These characters. -/
def word (s : String) : Scan Unit := fun cs =>
  let expected := s.toList
  if expected.isPrefixOf cs then some ((), cs.drop expected.length) else none

/-- All characters that fit. -/
def many (fits : Char → Bool) : Scan (List Char) := fun cs => some (cs.span fits)

/-- All characters that fit, at least one. -/
def some' (fits : Char → Bool) : Scan (List Char) := fun cs =>
  match cs.span fits with
  | ([], _) => none
  | (taken, rest) => some (taken, rest)

/-- The item if it applies. -/
def optional {α : Type} (item : Scan α) : Scan (Option α) := (some <$> item) <|> pure none

/-- Applies only at the end. -/
def atEnd : Scan Unit
  | [] => some ((), [])
  | _ => none

/-- Items with a separator between them, at least one and at most so many. -/
def separated {α : Type} (item : Scan α) (separator : Scan Unit) : Nat → Scan (List α)
  | 0 => failure
  | limit + 1 => do
    let first ← item
    match ← optional separator with
    | none => return [first]
    | some _ => return first :: (← separated item separator limit)

/-! ## Classes of characters -/

/-- A decimal digit. -/
def isDigit (c : Char) : Bool := '0' ≤ c && c ≤ '9'

/-- A space or tab. -/
def isSpace (c : Char) : Bool := c == ' ' || c == '\t'

/-- What comments and texts may hold: a tab, and everything that is no control character. -/
def isPlain (c : Char) : Bool := c == '\t' || (' ' ≤ c && c ≠ '\x7f')

/-- The value of a hexadecimal digit in either case. -/
def hex? (c : Char) : Option Nat :=
  if isDigit c then some (c.toNat - 48)
  else if 'a' ≤ c && c ≤ 'f' then some (c.toNat - 87)
  else if 'A' ≤ c && c ≤ 'F' then some (c.toNat - 55)
  else none

/-! ## Blanks and lines -/

/-- Spaces and tabs. -/
def spaces : Scan Unit := do let _ ← many isSpace

/-- The end of a line. -/
def newline : Scan Unit
  | '\n' :: rest => some ((), rest)
  | '\r' :: '\n' :: rest => some ((), rest)
  | _ => none

/-- A comment, up to the end of its line. -/
def comment : Scan Unit := do
  let _ ← char '#'
  let _ ← many isPlain

/-- The end of a line or of the document. -/
def lineEnd : Scan Unit := newline <|> atEnd

/-- What may follow on a line after a key and value or a header. -/
def lineRest : Scan Unit := do
  spaces
  let _ ← optional comment
  lineEnd

/-- Spaces, line ends and comments, at most so many. -/
def gap : Nat → Scan Unit
  | 0 => return ()
  | limit + 1 => do
    let piece : Scan Unit := (do let _ ← some' isSpace) <|> newline <|> comment
    match ← optional piece with
    | some _ => gap limit
    | none => return ()

end Scan

end PedestrianControl.Toml
