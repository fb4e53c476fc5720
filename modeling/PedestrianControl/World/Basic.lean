import PedestrianControl.Simulation
import PedestrianControl.World.Crowd
import PedestrianControl.World.Scenario

/-!
# Worlds

A world is a clock, the length of a step, and the pedestrians that walk in it.
-/

namespace PedestrianControl

/-- The state of the simulation. -/
structure World where
  time : Double
  stepLength : Double
  crowd : Crowd
  /-- The name of the scenario loaded last. -/
  scenario : Option String
deriving Inhabited

namespace World

/-- A world at time zero without pedestrians. -/
def empty (stepLength : Double) : World := ⟨0, stepLength, .empty, none⟩

/-- The world with a pedestrian added. -/
def add (w : World) (p : Pedestrian) : World := { w with crowd := w.crowd.insert p }

/-- The world after one step: everybody walks, then the clock advances. -/
def step (w : World) : World :=
  { w with
    time := w.time + w.stepLength
    crowd := w.crowd.map (·.walk w.stepLength) (Pedestrian.walk_id w.stepLength) }

/-- The world of a scenario: the clock starts again, and a scenario without a step length keeps the old
one. -/
def ofScenario (w : World) (name : String) (s : Scenario) : World :=
  { time := 0
    stepLength := s.stepLength.getD w.stepLength
    crowd := .ofList s.pedestrians
    scenario := some name }

/-- The world after loading a scenario text; a faulty text loads nothing. -/
def load (name text : String) (w : World) : Except Error World :=
  match Scenario.parse text with
  | .ok s => .ok (w.ofScenario name s)
  | .error fault => .error (.scenario fault)

instance : Simulation World where
  step := step
  time := time
  stepLength := stepLength
  loadScenario := load

end World

end PedestrianControl
