import PedestrianControl.Geometry.Vector

/-!
# Pedestrians

A pedestrian walks straight towards a target at its own speed and stops there.
-/

namespace PedestrianControl

/-- One pedestrian. `speed` is what it walks at, `velocity` what it did in the last step. -/
structure Pedestrian where
  id : Int32
  position : Vec2
  speed : Double
  target : Vec2
  radius : Double
  velocity : Vec2
deriving DecidableEq, Inhabited, Repr

namespace Pedestrian

/-- The radius of a pedestrian unless another is given, 0.2. -/
def defaultRadius : Double := ⟨0x3FC999999999999A⟩

/-- A pedestrian that has not moved yet. -/
def standing (id : Int32) (position : Vec2) (speed : Double) (target : Vec2) : Pedestrian :=
  { id, position, speed, target, radius := defaultRadius, velocity := 0 }

/-- Degrees in a radian, `180 / π`. -/
def degreesPerRadian : Float := 180.0 / 3.14159265358979323846264338327950288

/-- The direction of the velocity in degrees, clockwise from the second axis, from 0 up to 360; 0 for a
pedestrian that stands. -/
def angle (p : Pedestrian) : Double :=
  if p.velocity.length.same 0 then 0
  else
    let degrees := Float.atan2 p.velocity.x.toFloat p.velocity.y.toFloat * degreesPerRadian
    .ofFloat (if degrees < 0.0 then degrees + 360.0 else degrees)

/-- The pedestrian after walking for `dt`. It takes the target if that is within reach, and otherwise a part
of the way. -/
def walk (dt : Double) (p : Pedestrian) : Pedestrian :=
  let remaining := p.position.distance p.target
  let reach := p.speed * dt
  let way : Vec2 := ⟨p.target.x - p.position.x, p.target.y - p.position.y⟩
  if remaining.atMost reach || remaining.same 0 then
    { p with
      velocity := if dt.isPositive then ⟨way.x / dt, way.y / dt⟩ else 0
      position := p.target }
  else
    let scale := reach / remaining
    let step : Vec2 := ⟨way.x * scale, way.y * scale⟩
    { p with
      position := ⟨p.position.x + step.x, p.position.y + step.y⟩
      velocity := ⟨step.x / dt, step.y / dt⟩ }

/-- Walking keeps who walks. -/
@[simp] theorem walk_id (dt : Double) (p : Pedestrian) : (p.walk dt).id = p.id := by
  unfold walk; dsimp only; split <;> rfl

end Pedestrian

end PedestrianControl
