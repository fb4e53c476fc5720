import PedestrianControl.Proofs.World.Lookup
import PedestrianControl.Proofs.World.Speed

/-!
# Who is in a world

A pedestrian that is added takes the place of the one with its identifier. A scenario that is loaded takes the
place of everybody, and a faulty one of nobody. Gets, sets and steps change pedestrians and keep their
identifiers. So the identifiers in a world are those that its history leaves in use (`World.mem_ids_after_iff`).
-/

namespace PedestrianControl.World

variable {w after : World}

/-! ## Requests -/

/-- What a set makes of a world leaves the identifiers. -/
theorem ids_of_written (h : w.Written after) : after.crowd.ids = w.crowd.ids := by
  cases h with
  | stepLength => rfl
  | speed | position => simp only [Crowd.ids_modify]

/-- A command leaves the identifiers. -/
theorem ids_dispatch (w : World) (c : Command) :
    (Registry.standard.dispatch c w).2.crowd.ids = w.crowd.ids :=
  of_calls (R := fun w after => after.crowd.ids = w.crowd.ids) (fun _ => rfl) (fun h h' => h'.trans h)
    ids_of_written (Registry.standard.calls_dispatch c w)

/-- A step leaves the identifiers. -/
theorem ids_step (w : World) : w.step.crowd.ids = w.crowd.ids :=
  Crowd.ids_map (Pedestrian.walk_id w.stepLength)

/-! ## Histories -/

/-- What can happen to a world. -/
inductive Event
  /-- A pedestrian is added. -/
  | added (p : Pedestrian)
  /-- A scenario, a get, a set or a step is asked for. -/
  | asked (request : Request)

/-- The world after an event. -/
def undergo (w : World) : Event → World
  | .added p => w.add p
  | .asked request => w.perform request

/-- The world after events in order. A world made of a scenario is an empty one that was asked to load it. -/
def undergoAll (w : World) (history : List Event) : World := history.foldl undergo w

/-- The identifiers in use after an event, from those in use before it. -/
def Event.inUse (used : List Int32) : Event → List Int32
  | .added p => p.id :: used
  | .asked (.load _ text) =>
    match Scenario.parse text with
    | .ok s => s.pedestrians.map (·.id)
    | .error _ => used
  | .asked (.command _) => used
  | .asked .step => used

/-- The identifiers in use after events in order, nobody having been there before. -/
def inUse (history : List Event) : List Int32 := history.foldl Event.inUse []

/-- An event keeps the list of identifiers in use. -/
theorem mem_ids_undergo_iff {used : List Int32} (hused : ∀ n, n ∈ w.crowd.ids ↔ n ∈ used) (event : Event) (n : Int32) :
    n ∈ (w.undergo event).crowd.ids ↔ n ∈ event.inUse used := by
  cases event with
  | added p =>
    show n ∈ (w.crowd.insert p).ids ↔ n ∈ p.id :: used
    rw [Crowd.mem_ids_insert_iff, List.mem_cons, hused]
  | asked request =>
    cases request with
    | load name text =>
      rw [undergo, perform, load, Event.inUse]
      cases Scenario.parse text with
      | error fault => exact hused n
      | ok s => exact Crowd.mem_ids_ofList_iff.trans List.mem_map.symm
    | command c =>
      rw [undergo, perform, ids_dispatch]
      exact hused n
    | step =>
      rw [undergo, perform, ids_step]
      exact hused n

/-- A history of events keeps the list of identifiers in use. -/
theorem mem_ids_undergoAll_iff {used : List Int32} (hused : ∀ n, n ∈ w.crowd.ids ↔ n ∈ used) (history : List Event) :
    ∀ n, n ∈ (w.undergoAll history).crowd.ids ↔ n ∈ history.foldl Event.inUse used := by
  induction history generalizing w used with
  | nil => exact hused
  | cons event rest ih => exact ih (mem_ids_undergo_iff hused event)

/-- In a world that began empty, the identifiers are those that its history leaves in use. -/
theorem mem_ids_after_iff (stepLength : Double) (history : List Event) (n : Int32) :
    n ∈ ((empty stepLength).undergoAll history).crowd.ids ↔ n ∈ inUse history :=
  mem_ids_undergoAll_iff (fun _ => Iff.rfl) history n

end PedestrianControl.World
