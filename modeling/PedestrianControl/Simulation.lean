import PedestrianControl.Error

/-!
# Simulations

What the server needs of the thing it controls: that it can be advanced by a step, has a clock and a step
length, and perhaps can be replaced by a scenario.
-/

namespace PedestrianControl

/-- A thing that can be simulated step by step. -/
class Simulation (σ : Type) where
  /-- The state after one step. -/
  step : σ → σ
  /-- The time on the clock, in seconds. -/
  time : σ → Double
  /-- The seconds that a step takes. -/
  stepLength : σ → Double
  /-- The state after a scenario of a name and text was loaded. -/
  loadScenario : String → String → σ → Except Error σ :=
    fun name _ _ => .error (.scenario (.notSupported name))

namespace Simulation

/-- The state after so many steps. -/
def steps {σ : Type} [Simulation σ] : Nat → σ → σ
  | 0, s => s
  | n + 1, s => steps n (step s)

end Simulation

end PedestrianControl
