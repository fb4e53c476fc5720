import PedestrianControl.Subscription.Basic
import PedestrianControl.Wire.TypedValue

/-!
# Commands

What a controller can ask for.
-/

namespace PedestrianControl

/-- A request of a controller. The opcode of a `get`, `set` or `subscribe` names the interface it goes to. -/
inductive Command
  | getVersion
  /-- Replaces the world by that of the scenario file named first. -/
  | load (args : List String)
  /-- Advances the simulation up to a time. -/
  | simStep (target : Double)
  /-- Stores a scenario file and loads it. -/
  | sendFile (name content : String)
  /-- Ends the session. -/
  | close
  | get (opcode : Opcode) (var : UInt8) (element : String)
  | set (opcode : Opcode) (var : UInt8) (element : String) (value : TypedValue)
  /-- Registers a subscription; without variables it removes one. -/
  | subscribe (subscription : Subscription)
deriving Inhabited

namespace Command

/-- The opcode a command is sent with. -/
def opcode : Command → Opcode
  | getVersion => .getVersion
  | load _ => .load
  | simStep _ => .simStep
  | sendFile .. => .sendFile
  | close => .close
  | get o .. => o
  | set o .. => o
  | subscribe s => s.opcode

/-- Whether two commands agree, doubles as numbers. -/
def same : Command → Command → Bool
  | getVersion, getVersion => true
  | load a, load b => a == b
  | simStep a, simStep b => a.same b
  | sendFile n c, sendFile n' c' => n == n' && c == c'
  | close, close => true
  | get o v e, get o' v' e' => o == o' && v == v' && e == e'
  | set o v e a, set o' v' e' a' => o == o' && v == v' && e == e' && a.same a'
  | subscribe a, subscribe b => a.same b
  | _, _ => false

/-- Whether two lists of commands agree, doubles as numbers. -/
def sameAll : List Command → List Command → Bool
  | [], [] => true
  | a :: as, b :: bs => a.same b && sameAll as bs
  | _, _ => false

/-- The category that a command of this kind has on the wire. -/
def kind : Command → Category
  | getVersion | load _ | simStep _ | sendFile .. | close => .control
  | get .. => .get
  | set .. => .set
  | subscribe _ => .subscribe

/-- The opcode is one of the command's own kind. Every command read from the wire is of this sort. -/
def WellKinded (c : Command) : Prop := c.opcode.category = c.kind

instance (c : Command) : Decidable c.WellKinded := inferInstanceAs (Decidable (_ = _))

end Command

end PedestrianControl
