import PedestrianControl.Proofs.World.Lookup
import PedestrianControl.Proofs.World.StepLength
import PedestrianControl.Router

/-!
# Loading a scenario

A scenario is loaded as a whole or not at all. Of the world from before nothing remains, except that the step
length stays in force where the text gives none, so that worlds of one step length become the same world
(`Router.loadScenario_forgets`). Nobody of the scenario is missing there, though a crowd keeps one pedestrian
for each identifier: a text that gives an identifier twice is not read.
-/

namespace PedestrianControl

/-! ## The world of a scenario -/

namespace World

variable {w a b : World}

/-- The world is at the beginning of a scenario of this name: the clock at zero, and of pedestrians those of the
scenario, each found by its identifier. Where the scenario gives no step length, this one is in force. -/
structure AtStart (name : String) (s : Scenario) (stepLength : Double) (w : World) : Prop where
  time_eq : w.time = 0
  stepLength_eq : w.stepLength = s.stepLength.getD stepLength
  everybody : w.crowd.members.Perm s.pedestrians
  find?_iff : ∀ id p, w.crowd.find? id = some p ↔ p ∈ s.pedestrians ∧ p.id = id
  scenario_eq : w.scenario = some name

/-- A world of a scenario is at the scenario's start. -/
theorem atStart_ofScenario {text : String} {s : Scenario} (hparse : Scenario.parse text = .ok s)
    (name : String) (w : World) : (w.ofScenario name s).AtStart name s w.stepLength where
  time_eq := rfl
  stepLength_eq := rfl
  everybody := Crowd.perm_ofList (Scenario.nodup_of_parse hparse)
  find?_iff id p := by
    rw [Crowd.find?_eq_some_iff]
    exact and_congr_left' (Crowd.mem_ofList_iff (Scenario.nodup_of_parse hparse))
  scenario_eq := rfl

/-- The step length is all of a world that can remain. -/
theorem ofScenario_congr (h : a.stepLength = b.stepLength) (name : String) (s : Scenario) :
    a.ofScenario name s = b.ofScenario name s := by
  rw [ofScenario, ofScenario, h]

/-- Loading a scenario twice gives the world that loading it once gives. -/
theorem ofScenario_ofScenario (w : World) (name : String) (s : Scenario) :
    (w.ofScenario name s).ofScenario name s = w.ofScenario name s := by
  rw [ofScenario, ofScenario]
  cases s.stepLength <;> rfl

end World

/-! ## Loading -/

/-- The shared state with another world. -/
def Shared.putWorld (shared : Shared World) (w : World) : Shared World :=
  { shared with bridge := { shared.bridge with state := w } }

namespace Router

variable {name text : String} {s : Scenario} {fault : ScenarioFault}

/-- A text that is no scenario is refused, and nothing changes. -/
theorem loadScenario_of_fault (hparse : Scenario.parse text = .error fault) (name : String)
    (shared : Shared World) : loadScenario name text shared = (.error (.scenario fault), shared) := by
  have hload : Simulation.loadScenario name text shared.bridge.state = .error (.scenario fault) := by
    show World.load name text _ = _
    rw [World.load, hparse]
  rw [loadScenario, onState, Bridge.withState, hload]

/-- A text that is a scenario makes the world that of the scenario. -/
theorem loadScenario_of_parse (hparse : Scenario.parse text = .ok s) (name : String)
    (shared : Shared World) :
    loadScenario name text shared =
      (.ok (), shared.putWorld (shared.bridge.state.ofScenario name s)) := by
  have hload : Simulation.loadScenario name text shared.bridge.state =
      .ok (shared.bridge.state.ofScenario name s) := World.load_eq_ok_iff.2 ⟨s, hparse, rfl⟩
  rw [loadScenario, onState, Bridge.withState, hload]
  rfl

/-- Loading fails exactly if the text is faulty. -/
theorem loadScenario_fails_iff (name text : String) (shared : Shared World) :
    (∃ e, (loadScenario name text shared).1 = .error e) ↔
      ∃ fault, Scenario.parse text = .error fault := by
  cases hparse : Scenario.parse text with
  | error fault => simp [loadScenario_of_fault hparse]
  | ok s => simp [loadScenario_of_parse hparse]

/-- A scenario that is loaded once more changes nothing. -/
theorem loadScenario_again (name text : String) (shared : Shared World) :
    loadScenario name text (loadScenario name text shared).2 = loadScenario name text shared := by
  cases hparse : Scenario.parse text with
  | error fault => rw [loadScenario_of_fault hparse, loadScenario_of_fault hparse]
  | ok s =>
    rw [loadScenario_of_parse hparse, loadScenario_of_parse hparse, Shared.putWorld, Shared.putWorld,
      World.ofScenario_ofScenario]

/-- Into whatever two worlds of one step length a scenario is loaded, this fails for both or for neither, and it
fails exactly if the text is faulty. Then each world stays as it is. Otherwise both become the same world, at the
beginning of the scenario. Loading it once more has the same result and changes nothing. -/
theorem loadScenario_forgets (name text : String) {a b : Shared World}
    (hstep : a.bridge.state.stepLength = b.bridge.state.stepLength) :
    let loaded := loadScenario name text a
    let other := loadScenario name text b
    ((∃ e, loaded.1 = .error e) ↔ ∃ e, other.1 = .error e) ∧
      ((∃ e, other.1 = .error e) ↔ ∃ fault, Scenario.parse text = .error fault) ∧
      (∀ fault, Scenario.parse text = .error fault →
        loaded = (.error (.scenario fault), a) ∧ other = (.error (.scenario fault), b)) ∧
      (∀ s, Scenario.parse text = .ok s →
        ∃ w : World, w.AtStart name s a.bridge.state.stepLength ∧
          loaded = (.ok (), a.putWorld w) ∧ other = (.ok (), b.putWorld w)) ∧
      loadScenario name text loaded.2 = loaded := by
  intro loaded other
  have hfails : (∃ e, other.1 = .error e) ↔ ∃ fault, Scenario.parse text = .error fault :=
    loadScenario_fails_iff name text b
  refine ⟨(loadScenario_fails_iff name text a).trans hfails.symm, hfails, fun fault hparse => ?fault,
    fun s hparse => ?read, loadScenario_again name text a⟩
  case fault => exact ⟨loadScenario_of_fault hparse name a, loadScenario_of_fault hparse name b⟩
  case read =>
    refine ⟨a.bridge.state.ofScenario name s, World.atStart_ofScenario hparse name _,
      loadScenario_of_parse hparse name a, ?_⟩
    rw [World.ofScenario_congr hstep]
    exact loadScenario_of_parse hparse name b

/-- One world has a clock that runs and somebody who walks, the other has nothing yet. A scenario without a step
length makes them the same. -/
theorem loadScenario_forgets_walker :
    let text := "pedestrian 2 0 0 1 5 0\npedestrian 1 1 1 1 5 1"
    let begun := World.empty ⟨0x3FD999999999999A⟩
    let one : Double := ⟨0x3FF0000000000000⟩
    let walked := (begun.add (.standing 7 0 one ⟨one, one⟩)).step
    let shared (w : World) : Shared World := ⟨⟨w, 0, 0, .running⟩, .inDirectory ["srv"]⟩
    walked.time ≠ begun.time ∧
      ∃ s w, Scenario.parse text = .ok s ∧ s.pedestrians.map (·.id) = [2, 1] ∧
        w.AtStart "pair" s walked.stepLength ∧
        loadScenario "pair" text (shared walked) = (.ok (), (shared walked).putWorld w) ∧
        loadScenario "pair" text (shared begun) = (.ok (), (shared begun).putWorld w) := by
  intro text begun one walked shared
  have hread : (Scenario.parse text).toOption.map (fun s => s.pedestrians.map (·.id)) = some [2, 1] := by
    decide +kernel
  obtain ⟨s, hs, hids⟩ := Option.map_eq_some_iff.1 hread
  have hparse : Scenario.parse text = .ok s := Except.eq_ok_of_toOption hs
  obtain ⟨-, -, -, hsame, -⟩ :=
    loadScenario_forgets "pair" text (a := shared walked) (b := shared begun) rfl
  obtain ⟨w, hw⟩ := hsame s hparse
  exact ⟨by decide +kernel, s, w, hparse, hids, hw⟩

end Router

end PedestrianControl
