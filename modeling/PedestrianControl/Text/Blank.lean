/-!
# Blanks, lines and words

A blank is a character with the Unicode property `White_Space`. Words are the runs without blanks; a line
ends with a line feed, to which a carriage return just before it belongs.
-/

namespace PedestrianControl.Text

/-- The characters with the property `White_Space`. -/
def isBlank (c : Char) : Bool :=
  let n := c.toNat
  (0x09 ≤ n && n ≤ 0x0D) || n == 0x20 || n == 0x85 || n == 0xA0 || n == 0x1680 ||
    (0x2000 ≤ n && n ≤ 0x200A) || n == 0x2028 || n == 0x2029 || n == 0x202F || n == 0x205F ||
    n == 0x3000

/-- The characters up to the first `separator`, and what follows it if there is one. -/
def cut (separator : Char) : List Char → List Char × Option (List Char)
  | [] => ([], none)
  | c :: rest =>
    if c = separator then ([], some rest)
    else
      let (first, after) := cut separator rest
      (c :: first, after)

/-- The pieces between separators; a text without one is a single piece. -/
def pieces (separator : Char) : List Char → List (List Char)
  | [] => [[]]
  | c :: rest =>
    if c = separator then [] :: pieces separator rest
    else
      match pieces separator rest with
      | [] => [[c]]
      | piece :: others => (c :: piece) :: others

/-- The maximal runs of characters that are not blank. -/
def words : List Char → List (List Char)
  | [] => []
  | c :: rest =>
    if isBlank c then words rest
    else
      match rest, words rest with
      | [], _ => [[c]]
      | d :: _, [] => if isBlank d then [[c]] else []
      | d :: _, word :: others => if isBlank d then [c] :: word :: others else (c :: word) :: others

/-- A line without the carriage return that belongs to its end. -/
def dropReturn (line : List Char) : List Char :=
  if line.getLast? = some '\r' then line.dropLast else line

/-- The lines of a text. The last one may lack its line feed; nothing follows a final line feed. -/
def lines (s : List Char) : List (List Char) :=
  match (pieces '\n' s).reverse with
  | [] => []
  | last :: ended =>
    let whole := (ended.map dropReturn).reverse
    if last.isEmpty then whole else whole ++ [last]

end PedestrianControl.Text
