import PedestrianControl.Double

/-!
# Numbers in text

The readers of decimal numbers. A whole number is an optional sign and digits, within the range asked
for. A double is an optional sign and then one of `inf`, `infinity` and `nan` in any case, or digits with at
most one point among, before or after them, and an optional exponent; its value is the double nearest
to the decimal, however many digits it has.
-/

namespace PedestrianControl.Decimal

/-- The value of an ASCII digit. -/
def digit? (c : Char) : Option Nat :=
  if '0' ≤ c && c ≤ '9' then some (c.toNat - 48) else none

/-- The digits at the front as a number, how many they are, and the rest. -/
def leadingDigits : List Char → (value count : Nat) → Nat × Nat × List Char
  | [], value, count => (value, count, [])
  | c :: rest, value, count =>
    match digit? c with
    | some d => leadingDigits rest (10 * value + d) (count + 1)
    | none => (value, count, c :: rest)

/-- A nonempty run of digits and nothing else. -/
def digitsOnly? (s : List Char) : Option Nat :=
  match leadingDigits s 0 0 with
  | (value, count, []) => if count = 0 then none else some value
  | _ => none

/-- Whether a minus sign stands in front, and the text after the sign. -/
def sign : List Char → Bool × List Char
  | '-' :: rest => (true, rest)
  | '+' :: rest => (false, rest)
  | s => (false, s)

/-- A whole number with an optional sign. -/
def int? (s : List Char) : Option Int :=
  let (negative, body) := sign s
  (digitsOnly? body).map fun n => if negative then -(n : Int) else n

/-- A signed number of 32 bits. -/
def int32? (s : List Char) : Option Int32 :=
  match int? s with
  | some n => if -2147483648 ≤ n && n ≤ 2147483647 then some (Int32.ofInt n) else none
  | none => none

/-- An unsigned number of 64 bits. A plus sign may stand in front, a minus sign may not. -/
def word64? (s : List Char) : Option Nat :=
  let body := match s with
    | '+' :: rest => rest
    | s => s
  match digitsOnly? body with
  | some n => if n < UInt64.size then some n else none
  | none => none

/-- `digits * 10 ^ exponent` as the nearest double. Far outside the range of doubles the answer is known
without computing the power. -/
def toDouble (digits : Nat) (exponent : Int) : Double :=
  if digits = 0 then .zero
  else
    let magnitude := exponent + ((toString digits).length : Int)
    if 310 < magnitude then .infinity
    else if magnitude < -330 then .zero
    else .ofFloat (Float.ofScientific digits (exponent < 0) exponent.natAbs)

/-- The exponent part of a double: an `e`, an optional sign and digits; or nothing. -/
def exponent? : List Char → Option Int
  | [] => some 0
  | c :: rest => if c = 'e' || c = 'E' then int? rest else none

/-- A double without its sign: digits, an optional point with more digits, an optional exponent. -/
def unsigned? (s : List Char) : Option Double :=
  let (whole, wholeCount, rest) := leadingDigits s 0 0
  let (value, count, places, rest) :=
    match rest with
    | '.' :: rest =>
      let (value, count, rest) := leadingDigits rest whole wholeCount
      (value, count, count - wholeCount, rest)
    | rest => (whole, wholeCount, 0, rest)
  if count = 0 then none
  else (exponent? rest).map fun e => toDouble value (e - (places : Int))

/-- A double. -/
def double? (s : List Char) : Option Double :=
  let (negative, body) := sign s
  let word := String.ofList (body.map Char.toLower)
  let magnitude? :=
    if word = "inf" || word = "infinity" then some Double.infinity
    else if word = "nan" then some Double.nan
    else unsigned? body
  magnitude?.map fun d => if negative then -d else d

end PedestrianControl.Decimal
