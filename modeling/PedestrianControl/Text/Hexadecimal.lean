/-!
# Bytes in messages

Identifiers are written in messages as `0x` and two capital hexadecimal digits.
-/

namespace PedestrianControl.Text

/-- The capital digit of a value below sixteen. -/
def hexDigit (n : Nat) : Char :=
  if n < 10 then Char.ofNat (48 + n) else Char.ofNat (55 + n)

/-- A byte as `0x` and two capital digits. -/
def hexByte (b : UInt8) : String :=
  String.ofList ['0', 'x', hexDigit (b.toNat / 16), hexDigit (b.toNat % 16)]

end PedestrianControl.Text
