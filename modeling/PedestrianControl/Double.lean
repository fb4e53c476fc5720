/-!
# Doubles by their bits

The wire carries doubles as 64 bits, and a value that is only stored and handed on must keep every one
of them, the payload of a NaN included. `Double` is therefore the bit pattern itself; arithmetic and
comparison go through `Float`, which knows a single NaN.

`Double` equality is equality of bits. The comparison of the numbers meant, for which `0 = -0` and a NaN
differs from itself, is `Double.same`.
-/

namespace PedestrianControl

/-- A double, given by its 64 bits. -/
structure Double where
  bits : UInt64
deriving DecidableEq, Inhabited, Repr

namespace Double

/-- The number meant by the bits. -/
def toFloat (d : Double) : Float := Float.ofBits d.bits

/-- The bits of a number; every NaN becomes the quiet one without payload. -/
def ofFloat (x : Float) : Double := ⟨x.toBits⟩

/-- Positive zero. -/
def zero : Double := ⟨0⟩

/-- The sign bit. -/
def signBit : UInt64 := 0x8000000000000000

/-- Positive infinity. -/
def infinity : Double := ⟨0x7FF0000000000000⟩

/-- Negative infinity. -/
def negInfinity : Double := ⟨0xFFF0000000000000⟩

/-- The quiet NaN without payload. -/
def nan : Double := ⟨0x7FF8000000000000⟩

instance : Zero Double := ⟨zero⟩

/-- Whether the sign bit is set, also on a zero or a NaN. -/
def isNegative (d : Double) : Bool := d.bits &&& signBit != 0

/-- The eleven bits of the exponent. -/
def exponentField (d : Double) : Nat := ((d.bits >>> 52) &&& 0x7FF).toNat

/-- The fifty-two bits of the fraction. -/
def fraction (d : Double) : Nat := (d.bits &&& 0x000FFFFFFFFFFFFF).toNat

/-- Neither infinite nor NaN. -/
def isFinite (d : Double) : Bool := d.exponentField != 0x7FF

/-- Infinite, of either sign. -/
def isInfinite (d : Double) : Bool := d.exponentField == 0x7FF && d.fraction == 0

/-- Not a number, with any payload. -/
def isNaN (d : Double) : Bool := d.exponentField == 0x7FF && d.fraction != 0

/-- The double with the sign bit turned over. -/
protected def neg (d : Double) : Double := ⟨d.bits ^^^ signBit⟩

instance : Neg Double := ⟨Double.neg⟩
instance : Add Double := ⟨fun a b => ofFloat (a.toFloat + b.toFloat)⟩
instance : Sub Double := ⟨fun a b => ofFloat (a.toFloat - b.toFloat)⟩
instance : Mul Double := ⟨fun a b => ofFloat (a.toFloat * b.toFloat)⟩
instance : Div Double := ⟨fun a b => ofFloat (a.toFloat / b.toFloat)⟩

/-- Equality of the numbers meant: the zeros agree, a NaN agrees with nothing. -/
def same (a b : Double) : Bool := a.toFloat == b.toFloat

/-- `a ≤ b` between numbers; false if either is a NaN. -/
def atMost (a b : Double) : Bool := a.toFloat ≤ b.toFloat

/-- `a < b` between numbers; false if either is a NaN. -/
def below (a b : Double) : Bool := a.toFloat < b.toFloat

/-- Greater than zero; false for a NaN. -/
def isPositive (d : Double) : Bool := zero.below d

/-- Zero or more, `-0` included; false for a NaN. -/
def isAdmissibleSpeed (d : Double) : Bool := zero.atMost d

/-! ## Exact values

A finite double is `mantissa * 2 ^ scale` up to its sign. -/

/-- The value of the bit in front of a fraction, the fifty-second power of two. It is set, though not stored,
unless the exponent's field is zero. -/
def leadingBit : Nat := 4503599627370496

/-- The whole number in front of the power of two. -/
def mantissa (d : Double) : Nat :=
  if d.exponentField = 0 then d.fraction else d.fraction + leadingBit

/-- The exponent of the power of two. -/
def scale (d : Double) : Int :=
  if d.exponentField = 0 then -1074 else (d.exponentField : Int) - 1075

/-- `m / 2 ^ s` rounded to a whole number, a half going to the even neighbour. -/
def roundShift (m s : Nat) : Nat :=
  let whole := m >>> s
  let rest := m - whole <<< s
  let half := Nat.pow 2 s / 2
  if s = 0 then m
  else if rest > half || (rest == half && whole % 2 == 1) then whole + 1
  else whole

/-- The double nearest to `m * 2 ^ e`, a half going to the even neighbour. -/
def ofBinary (m : Nat) (e : Int) : Double :=
  if m = 0 then zero
  else
    let q := max (e + (m.log2 : Int) - 52) (-1074)
    let n := if q ≤ e then m <<< (e - q).toNat else roundShift m (q - e).toNat
    if n < leadingBit then ⟨n.toUInt64⟩
    else
      let field := (q + 1075).toNat
      if 2047 ≤ field then infinity
      else
        let bits := field * leadingBit + (n - leadingBit)
        if infinity.bits.toNat ≤ bits then infinity else ⟨bits.toUInt64⟩

end Double

end PedestrianControl
