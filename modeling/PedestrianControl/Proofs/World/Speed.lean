import Mathlib.Data.List.Induction
import PedestrianControl.Proofs.World.Lookup
import PedestrianControl.Proofs.World.StepLength

/-!
# Where speeds come from

A set refuses a speed that is negative or a NaN, and nothing else that happens in a world changes speeds. A scenario
checks them not at all. So every speed in a world is admissible or stands in a scenario that was loaded
(`World.speed_admissible_or_loaded`), and one that is negative can be had with a scenario of one line
(`World.exists_negative_speed`).
-/

namespace PedestrianControl

/-- Walking keeps the speed that is walked at. -/
@[simp] theorem Pedestrian.walk_speed (dt : Double) (p : Pedestrian) : (p.walk dt).speed = p.speed := by
  rw [walk]
  dsimp only
  split <;> rfl

namespace World

/-! ## Without scenarios -/

/-- Everybody goes on at a speed from before, or was given an admissible one. -/
def KeepsSpeeds (w after : World) : Prop :=
  ∀ p ∈ after.crowd.members, p.speed.isAdmissibleSpeed = true ∨
    ∃ q ∈ w.crowd.members, q.id = p.id ∧ q.speed = p.speed

variable {w between after : World}

theorem KeepsSpeeds.refl (w : World) : w.KeepsSpeeds w :=
  fun p hp => .inr ⟨p, hp, rfl, rfl⟩

/-- Two changes that keep the speeds are one that does. -/
theorem KeepsSpeeds.trans (h : w.KeepsSpeeds between) (h' : between.KeepsSpeeds after) :
    w.KeepsSpeeds after := by
  intro p hp
  rcases h' p hp with hadmissible | ⟨q, hq, hid, hspeed⟩
  · exact .inl hadmissible
  · rw [← hid, ← hspeed]
    exact h q hq

/-- A set keeps the speeds, but for an admissible one that it gives. -/
theorem keepsSpeeds_of_written (h : w.Written after) : w.KeepsSpeeds after := by
  cases h with
  | stepLength hseconds => exact .refl w
  | speed id hspeed =>
    intro p hp
    obtain ⟨q, hq, rfl⟩ := List.mem_map.1 hp
    dsimp only
    split
    · exact .inl hspeed
    · exact .inr ⟨q, hq, rfl, rfl⟩
  | position id position =>
    intro p hp
    obtain ⟨q, hq, rfl⟩ := List.mem_map.1 hp
    refine .inr ⟨q, hq, ?_⟩
    dsimp only
    split <;> exact ⟨rfl, rfl⟩

/-- Calls of handlers keep the speeds. -/
theorem keepsSpeeds_of_calls (h : Registry.standard.Calls w after) : w.KeepsSpeeds after :=
  of_calls .refl .trans keepsSpeeds_of_written h

/-- A step keeps the speeds. -/
theorem keepsSpeeds_step (w : World) : w.KeepsSpeeds w.step := by
  intro p hp
  obtain ⟨q, hq, rfl⟩ := List.mem_map.1 hp
  exact .inr ⟨q, hq, (q.walk_id _).symm, (q.walk_speed _).symm⟩

/-! ## Requests -/

/-- What can be asked of a world. -/
inductive Request
  /-- To load a scenario of a name and text, from wherever these come. -/
  | load (name text : String)
  /-- To carry out a get or set. -/
  | command (c : Command)
  /-- To run a step. -/
  | step

/-- The world after a request. A faulty scenario loads nothing. -/
def perform (w : World) : Request → World
  | .load name text =>
    match load name text w with
    | .ok after => after
    | .error _ => w
  | .command c => (Registry.standard.dispatch c w).2
  | .step => w.step

/-- The world after requests in order. -/
def performAll (w : World) (requests : List Request) : World := requests.foldl perform w

/-- One more request is carried out in the world that the earlier ones leave. -/
theorem performAll_concat (w : World) (requests : List Request) (request : Request) :
    w.performAll (requests ++ [request]) = (w.performAll requests).perform request := by
  rw [performAll, List.foldl_append, List.foldl_cons, List.foldl_nil, performAll]

/-- A scenario among the requests gives a pedestrian the speed. -/
def SpeedLoaded (requests : List Request) (p : Pedestrian) : Prop :=
  ∃ name text s q, .load name text ∈ requests ∧ Scenario.parse text = .ok s ∧ q ∈ s.pedestrians ∧
    q.id = p.id ∧ q.speed = p.speed

/-- A speed that was loaded stays one of those that were, whatever else is requested. -/
theorem SpeedLoaded.mono {requests more : List Request} {p : Pedestrian} (h : SpeedLoaded requests p)
    (hsubset : requests ⊆ more) : SpeedLoaded more p := by
  obtain ⟨name, text, s, q, hload, hq⟩ := h
  exact ⟨name, text, s, q, hsubset hload, hq⟩

/-- A request keeps the speeds, or else it is a scenario and all speeds are this one's. -/
theorem perform_cases (w : World) (request : Request) :
    w.KeepsSpeeds (w.perform request) ∨
      ∀ p ∈ (w.perform request).crowd.members, SpeedLoaded [request] p := by
  cases request with
  | load name text =>
    rw [perform]
    cases hload : load name text w with
    | error e => exact .inl (.refl w)
    | ok after =>
      obtain ⟨s, hparse, rfl⟩ := load_eq_ok_iff.1 hload
      refine .inr fun p hp => ⟨name, text, s, p, List.mem_singleton_self _, hparse, ?_, rfl, rfl⟩
      exact Crowd.mem_of_mem_ofList hp
  | command c => exact .inl (keepsSpeeds_of_calls (Registry.standard.calls_dispatch c w))
  | step => exact .inl w.keepsSpeeds_step

/-- In a world that began empty, whatever was asked of it, everybody has an admissible speed or the one that a scenario
among the requests gives. -/
theorem speed_admissible_or_loaded (stepLength : Double) (requests : List Request) (p : Pedestrian)
    (hp : p ∈ ((empty stepLength).performAll requests).crowd.members) :
    p.speed.isAdmissibleSpeed = true ∨ SpeedLoaded requests p := by
  induction requests using List.reverseRecOn generalizing p with
  | nil => cases hp
  | append_singleton requests request ih =>
    rw [performAll_concat] at hp
    rcases perform_cases ((empty stepLength).performAll requests) request with hkeeps | hloaded
    · rcases hkeeps p hp with hadmissible | ⟨q, hq, hid, hspeed⟩
      · exact .inl hadmissible
      · rcases ih q hq with hadmissible | ⟨name, text, s, q', hload, hparse, hq', hid', hspeed'⟩
        · exact .inl (hspeed ▸ hadmissible)
        · exact .inr ⟨name, text, s, q', List.mem_append_left _ hload, hparse, hq', hid'.trans hid,
            hspeed'.trans hspeed⟩
    · exact .inr ((hloaded p hp).mono (List.subset_append_right requests [request]))

/-- Of two pedestrians one goes on at the negative speed of the scenario and the other was given another. -/
theorem speed_admissible_or_loaded_pair :
    let requests : List Request :=
      [.load "pair" "pedestrian 1 0 0 -1 5 0\npedestrian 2 0 0 1 5 0",
        .command (.set .setPerson 0x40 "2" (.double ⟨0x4000000000000000⟩)), .step]
    let w := (empty ⟨0x3FD999999999999A⟩).performAll requests
    (∃ p ∈ w.crowd.members, p.id = 1 ∧ p.speed = ⟨0xBFF0000000000000⟩ ∧ SpeedLoaded requests p) ∧
      ∃ p ∈ w.crowd.members, p.id = 2 ∧ p.speed = ⟨0x4000000000000000⟩ := by
  intro requests w
  obtain ⟨p, hp, hid, hspeed⟩ : ∃ p ∈ w.crowd.members, p.id = 1 ∧ p.speed = ⟨0xBFF0000000000000⟩ := by
    decide +kernel
  have hnegative : p.speed.isAdmissibleSpeed ≠ true := by
    rw [hspeed]
    decide +kernel
  have hloaded : SpeedLoaded requests p :=
    (speed_admissible_or_loaded ⟨0x3FD999999999999A⟩ requests p hp).resolve_left hnegative
  exact ⟨⟨p, hp, hid, hspeed, hloaded⟩, by decide +kernel⟩

/-- A scenario gives a pedestrian a negative speed, at which he walks away from his target. A set of this speed is
refused. -/
theorem exists_negative_speed :
    let stepLength : Double := ⟨0x3FD999999999999A⟩
    let w := (empty stepLength).performAll [.load "backwards" "pedestrian 1 0 0 -1 5 0"]
    let set : Command := .set .setPerson 0x40 "1" (.double ⟨0xBFF0000000000000⟩)
    stepLength.isPositive = true ∧
      (∃ p ∈ w.crowd.members, p.speed = ⟨0xBFF0000000000000⟩ ∧ p.speed.isAdmissibleSpeed = false ∧
        p.position.x.below p.target.x = true ∧
        (p.walk stepLength).position.x.below p.position.x = true) ∧
      (Registry.standard.dispatch set w).1.status.result = .error := by
  decide +kernel

end World

end PedestrianControl
