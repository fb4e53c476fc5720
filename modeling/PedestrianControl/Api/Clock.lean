import PedestrianControl.Api.Surface
import PedestrianControl.World.Basic

/-!
# The simulation surface

The variables of the simulation as a whole. The element is ignored.
-/

namespace PedestrianControl

/-- The variables of the simulation. -/
inductive SimulationVariable
  | time
  | deltaT
  | minExpectedNumber
deriving DecidableEq, Inhabited, Repr

namespace SimulationVariable

/-- Every variable once. -/
def all : List SimulationVariable := [time, deltaT, minExpectedNumber]

/-- The byte that stands for a variable. -/
def code : SimulationVariable → UInt8
  | time => 0x66
  | deltaT => 0x7B
  | minExpectedNumber => 0x7D

/-- The name of a variable. -/
def name : SimulationVariable → String
  | time => "TIME"
  | deltaT => "DELTA_T"
  | minExpectedNumber => "MIN_EXPECTED_NUMBER"

/-- The variable that a byte stands for. -/
def ofCode? (b : UInt8) : Option SimulationVariable := all.find? fun v => v.code == b

/-- Reading the byte of a variable gives the variable. -/
@[simp] theorem ofCode?_code (v : SimulationVariable) : ofCode? v.code = some v := by
  cases v <;> decide

end SimulationVariable

namespace Clock

/-- The opcodes of the surface. -/
def opcodes : SurfaceOpcodes where
  get := .getSimulation
  set := .setSimulation
  subscribe := .subscribeSimulation
  getResponse := .getSimulationResponse
  subscribeResponse := .subscribeSimulationResponse

/-- Sets the length of a step. -/
def setDeltaT (r : ValueRequest) (w : World) : Except HandlerError World := do
  match (← r.required).asDouble? with
  | none => .error (.invalidValue "DELTA_T expects a double")
  | some seconds =>
    if seconds.isPositive then .ok { w with stepLength := seconds }
    else .error (.invalidValue s!"DELTA_T must be positive, got {seconds.text}")

/-- A handler that tells something of the world. -/
def telling (tell : World → TypedValue) : Handler World := .reading fun _ w => .ok (tell w)

/-- The simulation surface. -/
def surface : Surface World where
  name := "simulation"
  opcodes := opcodes
  variableName? := fun b => (SimulationVariable.ofCode? b).map (·.name)
  bindings := [
    ⟨opcodes.get, SimulationVariable.time.code, telling fun w => .double w.time⟩,
    ⟨opcodes.get, SimulationVariable.deltaT.code, telling fun w => .double w.stepLength⟩,
    ⟨opcodes.get, SimulationVariable.minExpectedNumber.code,
      telling fun w => .integer (Int32.ofNat w.crowd.size)⟩,
    ⟨opcodes.set, SimulationVariable.deltaT.code, .changing setDeltaT⟩]

end Clock

end PedestrianControl
