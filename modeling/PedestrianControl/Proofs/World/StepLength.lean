import PedestrianControl.Proofs.Routing.Evolution
import PedestrianControl.Proofs.World.Grammar
import PedestrianControl.Proofs.World.Written

/-!
# Step lengths stay positive

A step length comes from a scenario or from a set, and both refuse one that is not positive; a scenario without one
leaves the old one in force. So a world whose step length is positive keeps a positive one, however it evolves
(`World.isPositive_stepLength_of_evolves`).
-/

namespace PedestrianControl

/-! ## Scenarios -/

namespace Scenario

/-- A line that gives a step length gives a positive one. -/
theorem Says.isPositive {line : List Char} {seconds : Double} (h : Says line (.stepLength seconds)) :
    seconds.isPositive = true := by
  cases h
  assumption

/-- A directive with a step length is one for the step length. -/
theorem Directive.eq_stepLength {d : Directive} {seconds : Double} (h : d.stepLength? = some seconds) :
    d = .stepLength seconds := by
  cases d with
  | stepLength => exact congrArg _ (Option.some.inj h)
  | blank | pedestrian => cases h

/-- A scenario gives no step length or a positive one. -/
theorem isPositive_of_parse {text : String} {s : Scenario} (h : parse text = .ok s) :
    ∀ seconds, s.stepLength = some seconds → seconds.isPositive = true := by
  intro seconds hseconds
  rcases parse_cases text with ⟨ds, htold, hok⟩ | ⟨_, _, _, herror⟩
  · obtain rfl := Except.ok.inj (h.symm.trans hok)
    -- one of the directives gives it, and there is a line that says this one
    obtain ⟨d, hd, hgives⟩ := List.mem_filterMap.1 (List.mem_of_getLast? hseconds)
    obtain ⟨i, hi, rfl⟩ := List.getElem_of_mem hd
    have hsaid : Says _ ds[i] := htold.each.get (htold.each.length_eq.symm ▸ hi) hi
    rw [Directive.eq_stepLength hgives] at hsaid
    exact hsaid.isPositive
  · cases h.symm.trans herror

end Scenario

/-! ## Worlds -/

namespace World

variable {w after : World}

/-- A text that can be loaded is that of a scenario, and gives the world of this scenario. -/
theorem load_eq_ok_iff {name text : String} :
    load name text w = .ok after ↔ ∃ s, Scenario.parse text = .ok s ∧ w.ofScenario name s = after := by
  rw [load]
  cases Scenario.parse text with
  | ok s => simp
  | error fault => simp

/-- A scenario that is loaded keeps the step length positive. -/
theorem isPositive_stepLength_of_load {name text : String} (h : load name text w = .ok after)
    (hw : w.stepLength.isPositive = true) : after.stepLength.isPositive = true := by
  obtain ⟨s, hparse, rfl⟩ := load_eq_ok_iff.1 h
  show (s.stepLength.getD w.stepLength).isPositive = true
  cases hs : s.stepLength with
  | none => exact hw
  | some seconds => exact Scenario.isPositive_of_parse hparse seconds hs

/-- A set keeps the step length positive. -/
theorem isPositive_stepLength_of_written (h : w.Written after) (hw : w.stepLength.isPositive = true) :
    after.stepLength.isPositive = true := by
  cases h with
  | stepLength hseconds => exact hseconds
  | speed id hspeed => exact hw
  | position id position => exact hw

/-- Whatever changes a world at once keeps its step length positive. -/
theorem isPositive_stepLength_of_change (h : Registry.standard.Change w after)
    (hw : w.stepLength.isPositive = true) : after.stepLength.isPositive = true := by
  cases h with
  | called hcall =>
    rcases written_of_call hcall with rfl | hwritten
    · exact hw
    · exact isPositive_stepLength_of_written hwritten hw
  | stepped => exact hw
  | loaded hload => exact isPositive_stepLength_of_load hload hw

/-- However a world with a positive step length evolves, its step length is positive. -/
theorem isPositive_stepLength_of_evolves (h : Registry.standard.Evolves w after)
    (hw : w.stepLength.isPositive = true) : after.stepLength.isPositive = true :=
  h.keeps isPositive_stepLength_of_change hw

end World

end PedestrianControl
