import PedestrianControl.Double

/-!
# The length of a hypotenuse

`hypotenuse x y` is the double nearest to `√(x² + y²)`, computed in whole numbers, so that no square
overflows or vanishes on the way. It is infinite as soon as one side is, even beside a NaN.
-/

namespace PedestrianControl

/-- The greatest whole number whose square is at most `n`. -/
def wholeSqrt (n : Nat) : Nat :=
  if h : n = 0 then 0
  else
    let r := 2 * wholeSqrt (n / 4)
    if (r + 1) * (r + 1) ≤ n then r + 1 else r
termination_by n
decreasing_by omega

namespace Double

/-- The double nearest to `√n * 2 ^ e`. The root is taken with more bits than a double has; a last bit
stands for all that was cut off. -/
def ofSqrt (n : Nat) (e : Int) : Double :=
  let more := 70
  let wide := n <<< (2 * more)
  let root := wholeSqrt wide
  let cut := if root * root = wide then 0 else 1
  ofBinary (2 * root + cut) (e - more - 1)

/-- The length of the hypotenuse over two sides of any sign. -/
def hypotenuse (x y : Double) : Double :=
  if x.isInfinite || y.isInfinite then infinity
  else if x.isNaN || y.isNaN then nan
  else if x.mantissa = 0 then ofBinary y.mantissa y.scale
  else if y.mantissa = 0 then ofBinary x.mantissa x.scale
  else if y.scale + 120 < x.scale then ofBinary x.mantissa x.scale
  else if x.scale + 120 < y.scale then ofBinary y.mantissa y.scale
  else
    let e := min x.scale y.scale
    let a := x.mantissa <<< (x.scale - e).toNat
    let b := y.mantissa <<< (y.scale - e).toNat
    ofSqrt (a * a + b * b) e

end Double

end PedestrianControl
