import PedestrianControl.Toml.Scan

/-!
# Texts in documents

A text stands between one or three quotes of either kind. Between double quotes a backslash begins an escape;
between single quotes every character stands for itself. Between three quotes line ends are allowed, and
one or two quotes are content. A line end just after three opening quotes is dropped, and every line end
counts as a line feed.
-/

namespace PedestrianControl.Toml.Scan

/-- The number that so many hexadecimal digits make. -/
def hexNumber : Nat → Nat → Scan Nat
  | 0, value => return value
  | count + 1, value => fun cs =>
    match cs with
    | c :: rest => (hex? c).bind fun d => hexNumber count (16 * value + d) rest
    | [] => none

/-- The character of a code point, which must be one. -/
def scalar (code : Nat) : Scan Char :=
  if code < 0xD800 || (0xDFFF < code && code < 0x110000) then return Char.ofNat code else failure

/-- What follows the backslash of an escape. -/
def escape : Scan Char := do
  match ← one fun _ => true with
  | 'b' => return '\x08'
  | 't' => return '\t'
  | 'n' => return '\n'
  | 'f' => return '\x0c'
  | 'r' => return '\r'
  | '"' => return '"'
  | '\\' => return '\\'
  | 'u' => scalar (← hexNumber 4 0)
  | 'U' => scalar (← hexNumber 8 0)
  | _ => failure

/-- What follows the backslash of an escaped line end: all blanks and line ends up to the next other
character. -/
def escapedNewline (limit : Nat) : Scan Unit := do
  spaces
  newline
  let rec skip : Nat → Scan Unit
    | 0 => return ()
    | limit + 1 => do
      match ← optional ((do let _ ← some' isSpace) <|> newline) with
      | some _ => skip limit
      | none => return ()
  skip limit

/-- The rest of a text between double quotes, after the characters already read. -/
def basicRest : Nat → List Char → Scan String
  | 0, _ => failure
  | limit + 1, done => do
    match ← one fun _ => true with
    | '"' => return String.ofList done.reverse
    | '\\' => basicRest limit ((← escape) :: done)
    | c => if isPlain c then basicRest limit (c :: done) else failure

/-- The rest of a text between single quotes. -/
def literalRest : Scan String := do
  let content ← many fun c => isPlain c && c != '\''
  let _ ← char '\''
  return String.ofList content

/-- What stands at a place in a text between three quotes. -/
inductive Part
  | finished (quotes : Nat)
  | content (c : Char)
  | nothing

/-- The quotes at a place, if there are enough to end the text; one or two more belong to it. -/
def closing (quote : Char) : Scan Part := fun cs =>
  let count := (cs.takeWhile (· == quote)).length
  if count < 3 then none
  else
    let taken := min count 5
    some (.finished (taken - 3), cs.drop taken)

/-- One character of a text between three quotes, as it stands. -/
def plainPart : Scan Part :=
  (do newline; return .content '\n') <|> (do return .content (← one isPlain))

/-- One character of a text between three double quotes. -/
def basicPart (limit : Nat) : Scan Part := do
  match ← peek with
  | some '\\' => do
    let _ ← char '\\'
    (do escapedNewline limit; return .nothing) <|> (do return .content (← escape))
  | _ => plainPart

/-- The rest of a text between three quotes, after the characters already read. -/
def longRest (quote : Char) (part : Nat → Scan Part) : Nat → List Char → Scan String
  | 0, _ => failure
  | limit + 1, done => do
    match ← closing quote <|> part limit with
    | .finished quotes => return String.ofList (List.replicate quotes quote ++ done).reverse
    | .content c => longRest quote part limit (c :: done)
    | .nothing => longRest quote part limit done

/-- A text between single or double quotes on one line. -/
def shortText (limit : Nat) : Scan String := do
  match ← one fun _ => true with
  | '"' => basicRest limit []
  | '\'' => literalRest
  | _ => failure

/-- A text of any form. -/
def text (limit : Nat) : Scan String := do
  match ← peek with
  | some '"' =>
    match ← optional (word "\"\"\"") with
    | some _ => do
      let _ ← optional newline
      longRest '"' basicPart limit []
    | none => shortText limit
  | _ =>
    match ← optional (word "'''") with
    | some _ => do
      let _ ← optional newline
      longRest '\'' (fun _ => plainPart) limit []
    | none => shortText limit

end PedestrianControl.Toml.Scan
