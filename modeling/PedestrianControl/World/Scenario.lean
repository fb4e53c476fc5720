import PedestrianControl.Decimal.Reading
import PedestrianControl.Error
import PedestrianControl.Text.Blank
import PedestrianControl.World.Pedestrian

/-!
# Scenarios

A scenario is a text of one directive a line:

```text
# comment
step_length 0.4
pedestrian <id> <x> <y> <speed> <target_x> <target_y>
```

A `#` starts a comment, blank lines are skipped, and the last `step_length` counts. The first line that is
none of this, or that uses an identifier again, is the fault of the text.
-/

namespace PedestrianControl

/-- What a scenario text says. -/
structure Scenario where
  stepLength : Option Double
  /-- In the order of their lines. -/
  pedestrians : List Pedestrian
deriving DecidableEq, Inhabited, Repr

namespace Scenario

/-- What one line says. -/
inductive Directive
  | blank
  | stepLength (seconds : Double)
  | pedestrian (p : Pedestrian)
deriving DecidableEq, Inhabited, Repr

/-- A field read as a number, or the fault that it is none. -/
def field {α : Type} (read : List Char → Option α) (name : String) (text : List Char) :
    Except LineFault α :=
  match read text with
  | some a => .ok a
  | none => .error (.invalidField name (String.ofList text))

/-- The words of a line, its comment dropped. -/
def fields (line : List Char) : List (List Char) := Text.words (Text.cut '#' line).1

/-- The directive of a line. An identifier among those `seen` on earlier lines is a fault that comes before
those of the later fields. -/
def directive (seen : List Int32) (line : List Char) : Except LineFault Directive :=
  match fields line with
  | [] => .ok .blank
  | word :: values =>
    let name := String.ofList word
    if name = "step_length" then
      match values with
      | [seconds] => do
        let seconds ← field Decimal.double? "step_length" seconds
        if seconds.isPositive then .ok (.stepLength seconds) else .error .stepLengthNotPositive
      | _ => .error (.wrongArity name 1 values.length)
    else if name = "pedestrian" then
      match values with
      | [id, x, y, speed, targetX, targetY] => do
        let id ← field Decimal.int32? "id" id
        if id ∈ seen then .error (.duplicateId id.toInt)
        else
          let x ← field Decimal.double? "x" x
          let y ← field Decimal.double? "y" y
          let speed ← field Decimal.double? "speed" speed
          let targetX ← field Decimal.double? "target_x" targetX
          let targetY ← field Decimal.double? "target_y" targetY
          .ok (.pedestrian (.standing id ⟨x, y⟩ speed ⟨targetX, targetY⟩))
      | _ => .error (.wrongArity name 6 values.length)
    else .error (.unknownDirective name)

/-- What a line adds to a scenario. -/
def add (s : Scenario) : Directive → Scenario
  | .blank => s
  | .stepLength seconds => { s with stepLength := some seconds }
  | .pedestrian p => { s with pedestrians := s.pedestrians ++ [p] }

/-- The scenario of the lines from number `number` on, after those already read. -/
def ofLines (s : Scenario) (number : Nat) : List (List Char) → Except ScenarioFault Scenario
  | [] => .ok s
  | line :: rest =>
    match directive (s.pedestrians.map (·.id)) line with
    | .error fault => .error (.line number fault)
    | .ok d => ofLines (s.add d) (number + 1) rest

/-- The scenario of a text, or the fault of its first bad line. -/
def parse (text : String) : Except ScenarioFault Scenario :=
  ofLines ⟨none, []⟩ 1 (Text.lines text.toList)

end Scenario

end PedestrianControl
