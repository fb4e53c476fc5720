import PedestrianControl.Api.Handler
import PedestrianControl.Text.Hexadecimal

/-!
# Surfaces

A surface is one interface to the simulated state: the opcodes it is addressed with and a table of handlers
for its variables. A table is sound if it binds only the surface's own get and set opcodes, and no pair
of opcode and variable twice.
-/

namespace PedestrianControl

open Text (hexByte)

/-- The opcodes of a surface. -/
structure SurfaceOpcodes where
  get : Opcode
  set : Opcode
  subscribe : Opcode
  getResponse : Opcode
  subscribeResponse : Opcode
deriving DecidableEq, Inhabited, Repr

/-- A handler bound to an opcode and a variable. -/
structure Binding (σ : Type) where
  opcode : Opcode
  var : UInt8
  handler : Handler σ

/-- An interface to the simulated state. -/
structure Surface (σ : Type) where
  name : String
  opcodes : SurfaceOpcodes
  /-- The names of the variables that the surface knows, bound or not. -/
  variableName? : UInt8 → Option String
  bindings : List (Binding σ)

/-- What is wrong with tables of handlers. -/
inductive TableFault
  | foreignOpcode (surface : String) (opcode : UInt8)
  | boundTwice (surface : String) (opcode var : UInt8)
  | sharedOpcode (opcode : UInt8)
deriving DecidableEq, Inhabited, Repr

/-- The wording of a fault. -/
def TableFault.message : TableFault → String
  | foreignOpcode surface opcode =>
    s!"{surface}: {hexByte opcode} is not a get/set opcode of this surface"
  | boundTwice surface opcode var =>
    s!"{surface}: handler for ({hexByte opcode}, {hexByte var}) registered twice"
  | sharedOpcode opcode => s!"opcode {hexByte opcode} claimed by more than one API surface"

namespace Surface

variable {σ : Type}

/-- The opcodes that commands address the surface with. -/
def claimed (s : Surface σ) : List Opcode := [s.opcodes.get, s.opcodes.set, s.opcodes.subscribe]

/-- The handler bound to an opcode and a variable. -/
def handler? (s : Surface σ) (o : Opcode) (var : UInt8) : Option (Handler σ) :=
  (s.bindings.find? fun b => b.opcode == o && b.var == var).map (·.handler)

/-- Checks bindings in order, those in `earlier` having passed. -/
def checkBindings (s : Surface σ) (earlier : List (Opcode × UInt8)) :
    List (Binding σ) → Except TableFault Unit
  | [] => .ok ()
  | b :: rest =>
    if b.opcode ≠ s.opcodes.get ∧ b.opcode ≠ s.opcodes.set then
      .error (.foreignOpcode s.name b.opcode.code)
    else if (b.opcode, b.var) ∈ earlier then .error (.boundTwice s.name b.opcode.code b.var)
    else checkBindings s ((b.opcode, b.var) :: earlier) rest

/-- Checks that the surface's own table is sound. -/
def check (s : Surface σ) : Except TableFault Unit := s.checkBindings [] s.bindings

/-- The error of a variable without a handler. -/
def unbound (s : Surface σ) (o : Opcode) (var : UInt8) : HandlerError :=
  let name := (s.variableName? var).getD "unknown"
  .notImplemented
    s!"{s.name} variable {hexByte var} ({name}) is not implemented for command {hexByte o.code}"

/-- The error of a get whose handler gave no value. -/
def noValue (var : UInt8) : HandlerError :=
  .failed s!"handler for variable {hexByte var} returned no value"

/-- Runs the handler bound to an opcode and the request's variable. -/
def call (s : Surface σ) (o : Opcode) (r : ValueRequest) : HandlerM σ (Option TypedValue) :=
  match s.handler? o r.var with
  | some handler => handler r
  | none => throw (s.unbound o r.var)

/-- One value of a subscription: what the handler of a get gives, or its error as a text. That there is no value
is made an error first. -/
def subscribedValue (s : Surface σ) (element : String) (var : UInt8) : StateM σ SubscribedValue := do
  let found ← (s.call s.opcodes.get ⟨var, element, none⟩).run
  match found.bind fun v => v.elim (.error (noValue var)) .ok with
  | .ok v => return ⟨var, .ok, v⟩
  | .error e => return ⟨var, e.result, .string e.message⟩

/-- The values of a subscription, its variables in order. -/
def subscriptionResult (s : Surface σ) (element : String) (vars : List UInt8) :
    StateM σ SubscriptionResult := do
  let values ← vars.mapM (s.subscribedValue element)
  return ⟨s.opcodes.subscribeResponse, element, values⟩

/-- The answer to a get: the value that the handler gives, or its error, or that it gave none. -/
def answerGet (s : Surface σ) (o : Opcode) (var : UInt8) (element : String) : StateM σ Response := do
  match ← (s.call o ⟨var, element, none⟩).run with
  | .ok (some v) => return .withBody o (.value ⟨s.opcodes.getResponse, var, element, v⟩)
  | .ok none => return (noValue var).response o
  | .error e => return e.response o

/-- The answer to a set. -/
def answerSet (s : Surface σ) (o : Opcode) (var : UInt8) (element : String) (value : TypedValue) :
    StateM σ Response := do
  match ← (s.call o ⟨var, element, some value⟩).run with
  | .ok _ => return .ok o
  | .error e => return e.response o

end Surface

end PedestrianControl
