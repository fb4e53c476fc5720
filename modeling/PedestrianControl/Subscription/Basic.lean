import PedestrianControl.Double
import PedestrianControl.Wire.Opcode

/-!
# Subscriptions

A standing request for values of one element, and the span of simulation time in which it is answered.
-/

namespace PedestrianControl

/-- A standing request for the values of some variables of one element. -/
structure Subscription where
  opcode : Opcode
  starts : Double
  ends : Double
  element : String
  vars : List UInt8
deriving DecidableEq, Inhabited, Repr

namespace Subscription

/-- The bound of a span that is open on that side, `-2^30`. -/
def unbounded : Double := ⟨0xC1D0000000000000⟩

/-- Whether the span contains a time. -/
def isActive (s : Subscription) (time : Double) : Bool :=
  (s.starts.same unbounded || s.starts.atMost time) &&
    (s.ends.same unbounded || time.atMost s.ends)

/-- Whether the span lies before a time. -/
def isExpired (s : Subscription) (time : Double) : Bool :=
  !s.ends.same unbounded && s.ends.below time

/-- Whether two subscriptions agree, the bounds of their spans as numbers. -/
def same (a b : Subscription) : Bool :=
  a.opcode == b.opcode && a.starts.same b.starts && a.ends.same b.ends &&
    a.element == b.element && a.vars == b.vars

end Subscription

end PedestrianControl
