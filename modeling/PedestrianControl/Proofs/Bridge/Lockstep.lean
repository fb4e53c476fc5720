import PedestrianControl.Bridge.Lockstep

/-!
# What an advance does

With one request at a time an advance has two outcomes only. If its request is refused, the bridge stays as
it was. If it is accepted, the driver runs every step that is due, and the advance finds them completed:
it never sleeps on and never wakes to a stopped driver (`Bridge.advance_of_request_ok`).
-/

namespace PedestrianControl.Bridge

variable {σ : Type} {b requested : Bridge σ} {n steps target : Nat}

/-- What an accepted request says about the bridge before and after it. -/
theorem request_ok_cases (h : b.request steps = .ok (target, requested)) :
    b.driver = .running ∧ target = max b.requested b.completed + steps ∧
      requested = { b with requested := target } := by
  rw [request] at h
  split at h
  · cases h
  · rename_i hdriver
    dsimp only at h
    split at h
    · cases h
    · cases h
      exact ⟨Decidable.not_not.1 hdriver, rfl, rfl⟩

variable [Simulation σ]

/-- A running driver with enough steps due runs as many as it is let. -/
theorem drive_of_le (hdriver : b.driver = .running) (hdue : b.completed + n ≤ b.requested) :
    drive n b =
      { b with state := Simulation.steps n b.state, completed := b.completed + n } := by
  induction n generalizing b with
  | zero => rfl
  | succ n ih =>
    have hone : b.driverStep? =
        some { b with state := Simulation.step b.state, completed := b.completed + 1 } :=
      if_pos ⟨hdriver, by omega⟩
    have hrest := ih (b := { b with state := Simulation.step b.state, completed := b.completed + 1 })
      hdriver (by dsimp only; omega)
    rw [drive, hone]
    dsimp only
    rw [hrest, Nat.add_assoc, Nat.add_comm 1 n]
    rfl

/-- A running driver completes all that was requested. -/
theorem settle_of_running (hdriver : b.driver = .running) (hle : b.completed ≤ b.requested) :
    b.settle =
      { b with
        state := Simulation.steps (b.requested - b.completed) b.state
        completed := b.requested } := by
  rw [settle, drive_of_le hdriver (Nat.le_of_eq (Nat.add_sub_cancel' hle)), Nat.add_sub_cancel' hle]

/-- An advance whose request is refused changes nothing. -/
theorem advance_of_request_error {α : Type} {e : Error} (h : b.request steps = .error e)
    (atBoundary : σ → α × σ) : b.advance steps atBoundary = (.error e, b) := by
  rw [advance, h]

/-- An accepted advance runs the steps that were due before it and its own, and then looks at the state. -/
theorem advance_of_request_ok {α : Type} (h : b.request steps = .ok (target, requested))
    (atBoundary : σ → α × σ) :
    b.advance steps atBoundary =
      let found := atBoundary (Simulation.steps (target - b.completed) b.state)
      (.ok found.1, ⟨found.2, target, target, .running⟩) := by
  obtain ⟨hdriver, htarget, rfl⟩ := request_ok_cases h
  have hdue : b.completed ≤ target := by omega
  have hsettle := settle_of_running (b := { b with requested := target }) hdriver hdue
  rw [advance, h]
  dsimp only
  rw [hsettle, wake, if_pos (Nat.le_refl target), hdriver]
  rfl

/-- An advance that fails leaves the bridge as it was: no step runs and none is due that was not. -/
theorem eq_of_advance_error {α : Type} {e : Error} {atBoundary : σ → α × σ} {after : Bridge σ}
    (h : b.advance steps atBoundary = (.error e, after)) : after = b := by
  cases hrequest : b.request steps with
  | error e' =>
    rw [advance_of_request_error hrequest] at h
    cases h
    rfl
  | ok accepted =>
    rw [advance_of_request_ok hrequest] at h
    cases h

end PedestrianControl.Bridge
