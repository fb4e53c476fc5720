import PedestrianControl.Bridge.Basic

/-!
# One request at a time

The bridge's operations put together for the case that nothing else happens meanwhile: the driver answers a
request by running all steps that are due, and leaves as soon as it is told to stop.
-/

namespace PedestrianControl.Bridge

variable {σ : Type} [Simulation σ]

/-- Lets the driver run steps while any are due, at most so many. -/
def drive : Nat → Bridge σ → Bridge σ
  | 0, b => b
  | n + 1, b =>
    match b.driverStep? with
    | some b => drive n b
    | none => b

/-- Lets the driver run every step that is due. -/
def settle (b : Bridge σ) : Bridge σ := drive (b.requested - b.completed) b

/-- Advances by so many steps and then looks at the state, or changes it, at that boundary. -/
def advance {α : Type} (steps : Nat) (atBoundary : σ → α × σ) (b : Bridge σ) :
    Except Error α × Bridge σ :=
  match b.request steps with
  | .error e => (.error e, b)
  | .ok (target, b) =>
    let b := b.settle
    match b.wake target with
    | .reached =>
      let (a, b) := b.withState atBoundary
      (.ok a, b)
    | _ => (.error .driverStopped, b)

omit [Simulation σ] in
/-- Stops the driver, if there is one, and waits until it has left. -/
def shutdown (b : Bridge σ) : Bridge σ :=
  let b := b.requestStop
  b.driverLeaves?.getD b

end PedestrianControl.Bridge
