import PedestrianControl.Wire.Response

/-!
# Handlers

A handler gets or sets one variable of the simulated state. It may fail without ending the session, and what it
did to the state before it failed stays done.
-/

namespace PedestrianControl

/-- Why a handler did not do what it was asked for. -/
inductive HandlerError
  | notImplemented (description : String)
  | elementNotFound (element : String)
  | invalidValue (reason : String)
  | failed (description : String)
deriving DecidableEq, Inhabited, Repr

namespace HandlerError

/-- The wording of the error. -/
def message : HandlerError → String
  | notImplemented description => description
  | elementNotFound element => s!"element '{element}' not found"
  | invalidValue reason => s!"invalid value: {reason}"
  | failed description => description

/-- The result code that reports the error. -/
def result : HandlerError → ResultCode
  | notImplemented _ => .notImplemented
  | _ => .error

/-- The answer to the command that failed. -/
def response (e : HandlerError) (o : Opcode) : Response := ⟨⟨o, e.result, e.message⟩, .none⟩

end HandlerError

/-- What a handler is asked for. A set has a value, a get has none. -/
structure ValueRequest where
  var : UInt8
  element : String
  value : Option TypedValue
deriving Inhabited

/-- The value to set. -/
def ValueRequest.required (r : ValueRequest) : Except HandlerError TypedValue :=
  match r.value with
  | some v => .ok v
  | none => .error (.invalidValue "set command without value")

/-- A handler's work on the state: a value, nothing, or an error. -/
abbrev HandlerM (σ : Type) := ExceptT HandlerError (StateM σ)

/-- Answers requests from the state and may change it. -/
abbrev Handler (σ : Type) := ValueRequest → HandlerM σ (Option TypedValue)

namespace Handler

/-- A handler that only looks at the state. -/
def reading {σ : Type} (read : ValueRequest → σ → Except HandlerError TypedValue) : Handler σ :=
  fun r s => (some <$> read r s, s)

/-- A handler that puts a new state in place of the old one, or fails and leaves the old one. -/
def changing {σ : Type} (change : ValueRequest → σ → Except HandlerError σ) : Handler σ :=
  fun r s =>
    match change r s with
    | .ok s' => (.ok none, s')
    | .error e => (.error e, s)

end Handler

end PedestrianControl
