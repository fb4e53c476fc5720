import PedestrianControl.Api.Surface
import PedestrianControl.Wire.Command

/-!
# Registries

A registry holds the surfaces of a server and sends each command to the one that claims its opcode. It is built
from surfaces with sound tables that share no opcode.
-/

namespace PedestrianControl

open Text (hexByte)

/-- The surfaces of a server. -/
structure Registry (σ : Type) where
  surfaces : List (Surface σ)

namespace Registry

variable {σ : Type}

/-- The first element that occurs again among those before it. -/
def firstRepeated {α : Type} [DecidableEq α] (earlier : List α) : List α → Option α
  | [] => none
  | a :: rest => if a ∈ earlier then some a else firstRepeated (a :: earlier) rest

/-- Checks the tables of surfaces in order. -/
def checkTables : List (Surface σ) → Except TableFault Unit
  | [] => .ok ()
  | s :: rest => do
    s.check
    checkTables rest

/-- The registry of some surfaces: first each table must be sound, then no opcode may be claimed twice. -/
def build (surfaces : List (Surface σ)) : Except TableFault (Registry σ) := do
  checkTables surfaces
  match firstRepeated [] (surfaces.flatMap Surface.claimed) with
  | some o => .error (.sharedOpcode o.code)
  | none => .ok ⟨surfaces⟩

/-- The surface that claims an opcode. -/
def surface? (r : Registry σ) (o : Opcode) : Option (Surface σ) :=
  r.surfaces.find? fun s => s.claimed.contains o

/-- The answer to a get or set. Other commands have no business here. -/
def dispatch (r : Registry σ) (c : Command) : StateM σ Response :=
  match r.surface? c.opcode with
  | none => return .notImplemented c.opcode s!"no API surface handles command {hexByte c.opcode.code}"
  | some s =>
    match c with
    | .get o var element => s.answerGet o var element
    | .set o var element value => s.answerSet o var element value
    | c => return .notImplemented c.opcode s!"command {hexByte c.opcode.code} is not a get/set command"

end Registry

end PedestrianControl
