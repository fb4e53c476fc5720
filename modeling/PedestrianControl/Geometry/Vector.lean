import PedestrianControl.Geometry.Hypotenuse

/-!
# Points and vectors
-/

namespace PedestrianControl

/-- A point or vector in the plane. -/
structure Vec2 where
  x : Double
  y : Double
deriving DecidableEq, Inhabited, Repr

/-- A point in space. -/
structure Vec3 where
  x : Double
  y : Double
  z : Double
deriving DecidableEq, Inhabited, Repr

namespace Vec2

instance : Zero Vec2 := ⟨⟨0, 0⟩⟩

/-- The length of a vector. -/
def length (v : Vec2) : Double := v.x.hypotenuse v.y

/-- The distance from one point to another. -/
def distance (a b : Vec2) : Double := length ⟨b.x - a.x, b.y - a.y⟩

/-- Equality of the numbers meant. -/
def same (a b : Vec2) : Bool := a.x.same b.x && a.y.same b.y

end Vec2

/-- Equality of the numbers meant. -/
def Vec3.same (a b : Vec3) : Bool := a.x.same b.x && a.y.same b.y && a.z.same b.z

end PedestrianControl
