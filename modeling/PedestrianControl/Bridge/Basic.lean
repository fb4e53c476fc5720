import PedestrianControl.Simulation

/-!
# The bridge between sessions and the simulation driver

The bridge owns the simulated state and two counters: the steps requested so far and the steps completed.
Sessions raise the first, a driver raises the second by running steps, and a session that asked for steps
sleeps until they are completed.

Each operation below is one section in which the state is held exclusively, so a run of the whole program
is an interleaving of these operations:

* a driver is attached, told to stop, runs one step, and leaves;
* an advance requests steps, and later wakes to see whether they are completed.
-/

namespace PedestrianControl

/-- Whether a driver is attached, and whether it was told to stop. -/
inductive DriverState
  | stopped
  | running
  | stopping
deriving DecidableEq, Inhabited, Repr

/-- The simulated state with its step counters. -/
structure Bridge (σ : Type) where
  state : σ
  requested : Nat
  completed : Nat
  driver : DriverState

namespace Bridge

variable {σ : Type}

/-- The counters count no further than this. -/
def counterLimit : Nat := UInt64.size - 1

/-- A bridge without a driver and without any step. -/
def fresh (state : σ) : Bridge σ := ⟨state, 0, 0, .stopped⟩

/-- Whether a driver is attached that was not told to stop. -/
def isRunning (b : Bridge σ) : Bool := b.driver == .running

/-- Applies a function to the state. -/
def withState {α : Type} (b : Bridge σ) (f : σ → α × σ) : α × Bridge σ :=
  let (a, state) := f b.state
  (a, { b with state })

/-! ## The driver's side -/

/-- Claims the bridge for a new driver. -/
def attach (b : Bridge σ) : Except Error (Bridge σ) :=
  if b.driver = .stopped then .ok { b with driver := .running }
  else .error (.config .driverAttached)

/-- Tells the driver to stop. -/
def requestStop (b : Bridge σ) : Bridge σ :=
  if b.driver = .running then { b with driver := .stopping } else b

/-- The driver runs one requested step. It has none to run if it was told to stop or if all requested steps
are completed. -/
def driverStep? [Simulation σ] (b : Bridge σ) : Option (Bridge σ) :=
  if b.driver = .running ∧ b.completed < b.requested then
    some { b with state := Simulation.step b.state, completed := b.completed + 1 }
  else none

/-- A driver with an interval of its own requests a step when the interval ends and no step is due. -/
def intervalEnds (b : Bridge σ) : Bridge σ :=
  if b.driver = .running ∧ b.requested ≤ b.completed then
    { b with requested := b.completed + 1 }
  else b

/-- The driver leaves once it was told to stop. -/
def driverLeaves? (b : Bridge σ) : Option (Bridge σ) :=
  if b.driver = .running then none else some { b with driver := .stopped }

/-! ## The sessions' side -/

/-- An advance requests so many steps beyond all that were requested or completed, and learns the count to
wait for. -/
def request (steps : Nat) (b : Bridge σ) : Except Error (Nat × Bridge σ) :=
  if b.driver ≠ .running then .error .driverStopped
  else
    let target := max b.requested b.completed + steps
    if counterLimit < target then .error (.protocol (.counterOverflow steps))
    else .ok (target, { b with requested := target })

/-- What an advance finds on waking. -/
inductive Waking
  /-- All its steps are completed. -/
  | reached
  /-- The driver was told to stop before they were. -/
  | stopped
  /-- It sleeps on. -/
  | asleep
deriving DecidableEq, Inhabited, Repr

/-- An advance that waits for a count wakes. -/
def wake (target : Nat) (b : Bridge σ) : Waking :=
  if target ≤ b.completed then .reached
  else if b.driver ≠ .running then .stopped
  else .asleep

end Bridge

end PedestrianControl
