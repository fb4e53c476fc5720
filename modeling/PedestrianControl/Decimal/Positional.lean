import PedestrianControl.Decimal.Shortest

/-!
# Doubles in messages

A double is written with the fewest digits that read back, always positionally: no exponent, no point
after a whole number, a minus sign also on negative zero.
-/

namespace PedestrianControl

namespace Decimal

/-- `digits * 10 ^ step` written out with a point only where a digit follows it. -/
def Digits.positional (d : Digits) : String :=
  let text := toString d.digits
  if 0 ≤ d.step then text ++ "".pushn '0' d.step.toNat
  else
    let places := (-d.step).toNat
    if places < text.length then
      let cs := text.toList
      String.ofList (cs.take (text.length - places)) ++ "." ++
        String.ofList (cs.drop (text.length - places))
    else "0." ++ "".pushn '0' (places - text.length) ++ text

end Decimal

namespace Double

/-- The text of a double. -/
def text (d : Double) : String :=
  if d.isNaN then "NaN"
  else
    let sign := if d.isNegative then "-" else ""
    if d.isInfinite then sign ++ "inf"
    else if d.mantissa = 0 then sign ++ "0"
    else sign ++ (Decimal.shortest d).positional

end Double

end PedestrianControl
