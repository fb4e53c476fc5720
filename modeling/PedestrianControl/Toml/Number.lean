import PedestrianControl.Decimal.Reading
import PedestrianControl.Toml.Item
import PedestrianControl.Toml.Scan

/-!
# Numbers, dates and times in documents

A whole number is decimal with an optional sign and no leading zero, or follows `0x`, `0o` or `0b` without a
sign; it must fit 64 bits with a sign. Between two digits an underscore may stand. A float has a
fraction or an exponent, or is `inf` or `nan`. Dates and times are checked, their values are not kept.
-/

namespace PedestrianControl.Toml.Scan

/-! ## Digits -/

/-- Digits with single underscores between them, the underscores dropped. -/
def digitRun (fits : Char → Bool) : Scan (List Char) := do
  let raw ← some' fun c => fits c || c == '_'
  let sound := raw.head? != some '_' && raw.getLast? != some '_' &&
    !(raw.zip (raw.drop 1)).contains ('_', '_')
  if sound then return raw.filter (· != '_') else failure

/-- A decimal number without a leading zero. -/
def decimalDigits : Scan (List Char) := do
  match ← peek with
  | some '0' => do
    let _ ← char '0'
    return ['0']
  | _ => digitRun isDigit

/-- An optional sign; whether it is a minus. -/
def sign : Scan Bool := do
  match ← optional (one fun c => c == '+' || c == '-') with
  | some '-' => return true
  | _ => return false

/-- The number that digits of a base make. -/
def ofDigits (base : Nat) (digits : List Char) : Nat :=
  digits.foldl (fun n c => base * n + (hex? c).getD 0) 0

/-! ## Whole numbers -/

/-- A whole number that fits 64 bits with a sign. -/
def fitting (n : Int) : Scan Item :=
  if -9223372036854775808 ≤ n && n ≤ 9223372036854775807 then return .integer n else failure

/-- The digits of a number in another base than ten. -/
def based (base : Nat) : Scan Item := do
  let digits ← digitRun fun c => (hex? c).any (· < base)
  fitting (ofDigits base digits)

/-- A whole number. -/
def integer : Scan Item := fun cs =>
  match cs with
  | '0' :: 'x' :: rest => based 16 rest
  | '0' :: 'o' :: rest => based 8 rest
  | '0' :: 'b' :: rest => based 2 rest
  | cs =>
    (do
      let negative ← sign
      let n := ofDigits 10 (← decimalDigits)
      fitting (if negative then -(n : Int) else n) : Scan Item) cs

/-! ## Floats -/

/-- The exponent of a float with its digits, as text. -/
def exponent : Scan (List Char) := do
  let _ ← one fun c => c == 'e' || c == 'E'
  let negative ← sign
  let digits ← digitRun isDigit
  return 'e' :: (if negative then ['-'] else []) ++ digits

/-- The fraction of a float, as text. -/
def fraction : Scan (List Char) := do
  let _ ← char '.'
  let digits ← digitRun isDigit
  return '.' :: digits

/-- A float in figures. What is too great for a double is refused, unless it is negative. -/
def figures : Scan Item := do
  let negative ← sign
  let whole ← decimalDigits
  let rest ← exponent <|> (do
    let places ← fraction
    match ← peek with
    | some 'e' | some 'E' => return places ++ (← exponent)
    | _ => return places)
  match Decimal.unsigned? (whole ++ rest) with
  | some d =>
    if negative then return .float (-d)
    else if d.isInfinite then failure
    else return .float d
  | none => failure

/-- A float that is no number in figures. -/
def special : Scan Item := do
  let negative ← sign
  let d ← (do word "inf"; return Double.infinity) <|> (do word "nan"; return Double.nan)
  return .float (if negative then -d else d)

/-- A float. -/
def float : Scan Item := figures <|> special

/-! ## Dates and times -/

/-- So many digits as a number. -/
def fixed : Nat → Nat → Scan Nat
  | 0, value => return value
  | count + 1, value => do
    let c ← one isDigit
    fixed count (10 * value + (c.toNat - 48))

/-- A number of two digits within bounds. -/
def pair (low high : Nat) : Scan Nat := do
  let n ← fixed 2 0
  if low ≤ n && n ≤ high then return n else failure

/-- The days of a month. -/
def daysIn (year month : Nat) : Nat :=
  if month = 2 then
    if year % 4 = 0 && (year % 100 != 0 || year % 400 = 0) then 29 else 28
  else if month = 4 || month = 6 || month = 9 || month = 11 then 30
  else 31

/-- A date. -/
def date : Scan Unit := do
  let year ← fixed 4 0
  let _ ← char '-'
  let month ← pair 1 12
  let _ ← char '-'
  let _ ← pair 1 (daysIn year month)

/-- A time of the day. -/
def timeOfDay : Scan Unit := do
  let _ ← pair 0 23
  let _ ← char ':'
  let _ ← pair 0 59
  let _ ← char ':'
  let _ ← pair 0 60
  let _ ← optional (do
    let _ ← char '.'
    let _ ← some' isDigit)

/-- The distance of a time from the universal one. -/
def offset : Scan Unit :=
  (do let _ ← one fun c => c == 'Z' || c == 'z') <|> (do
    let _ ← one fun c => c == '+' || c == '-'
    let _ ← pair 0 23
    let _ ← char ':'
    let _ ← pair 0 59)

/-- A date, a time, or both. -/
def moment : Scan Item :=
  (do
    date
    let _ ← optional (do
      let _ ← one fun c => c == 'T' || c == 't' || c == ' '
      timeOfDay
      let _ ← optional offset)
    return .moment) <|> (do timeOfDay; return .moment)

/-- A date, time or number. -/
def number : Scan Item := moment <|> float <|> integer

end PedestrianControl.Toml.Scan
