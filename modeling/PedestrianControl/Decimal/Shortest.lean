import PedestrianControl.Double

/-!
# The fewest digits that read back

A decimal reads back as a given double if it lies in the interval of numbers that round to it; the ends
belong to the interval exactly when the double's mantissa is even. Among the decimals with the fewest
digits that read back, the one nearest to the double is chosen, and of two equally near the greater.

The search works on whole numbers: a positive double is a fraction `value / unit`, its interval reaches
from `low / unit` to `high / unit`, and a decimal grid is given by the exponent of its step.
-/

namespace PedestrianControl.Decimal

/-- A positive double as a fraction, with the interval of numbers that round to it. -/
structure Window where
  value : Nat
  low : Nat
  high : Nat
  unit : Nat
  /-- Whether the two ends round to the double as well. -/
  closed : Bool

/-- The window of a positive finite double. Below a power of two the doubles lie twice as close. -/
def Window.ofDouble (d : Double) : Window :=
  let m := d.mantissa
  let below := if d.fraction = 0 ∧ 1 < d.exponentField then 1 else 2
  let e := d.scale - 2
  let up := Nat.pow 2 e.toNat
  { value := 4 * m * up, low := (4 * m - below) * up, high := (4 * m + 2) * up
    unit := Nat.pow 2 (-e).toNat, closed := m % 2 == 0 }

/-- The window seen on the grid of step `10 ^ step`: numbers of steps over a common denominator. -/
def Window.onGrid (w : Window) (step : Int) : Window :=
  let up := Nat.pow 10 (-step).toNat
  { w with
    value := w.value * up, low := w.low * up, high := w.high * up
    unit := w.unit * Nat.pow 10 step.toNat }

/-- Whether so many steps of the grid read back. -/
def Window.holds (w : Window) (steps : Nat) : Bool :=
  let at_ := steps * w.unit
  if w.closed then w.low ≤ at_ && at_ ≤ w.high else w.low < at_ && at_ < w.high

/-- The grid point that reads back and is nearest to the value, if one of its two neighbours does. -/
def Window.nearest? (w : Window) : Option Nat :=
  let down := w.value / w.unit
  let up := down + 1
  match w.holds down, w.holds up with
  | false, false => none
  | true, false => some down
  | false, true => some up
  | true, true => if 2 * (w.value - down * w.unit) < w.unit then some down else some up

/-- The exponent of the first decimal digit of `value / unit`. -/
def leadingExponent (value unit : Nat) : Int :=
  let guess := ((value.log2 : Int) - (unit.log2 : Int)) * 1233 / 4096
  let reaches (e : Int) : Bool := unit * Nat.pow 10 e.toNat ≤ value * Nat.pow 10 (-e).toNat
  if reaches (guess + 1) then guess + 1 else if reaches guess then guess else guess - 1

/-- A decimal: `digits * 10 ^ step`. -/
structure Digits where
  digits : Nat
  step : Int
deriving DecidableEq, Inhabited, Repr

/-- The first grid, from `count` digits on, with a point that reads back; `fuel` bounds the search. -/
def firstGrid (w : Window) (lead : Int) : (fuel count : Nat) → Digits
  | 0, count =>
    let step := lead - (count : Int) + 1
    ⟨(w.onGrid step).value / (w.onGrid step).unit, step⟩
  | fuel + 1, count =>
    let step := lead - (count : Int) + 1
    match (w.onGrid step).nearest? with
    | some n => ⟨n, step⟩
    | none => firstGrid w lead fuel (count + 1)

/-- The shortest decimal of a positive finite double. Seventeen digits always suffice. A double just below
a power of ten may round up to it, which leaves one zero to drop. -/
def shortest (d : Double) : Digits :=
  let w := Window.ofDouble d
  let found := firstGrid w (leadingExponent w.value w.unit) 17 1
  if found.digits % 10 = 0 then ⟨found.digits / 10, found.step + 1⟩ else found

end PedestrianControl.Decimal
