import Mathlib.Logic.Relation
import PedestrianControl.Proofs.Api.Surface

/-!
# What commands do to the state

A registry touches the state by nothing but the handlers in its tables. So whatever it answers, the state afterwards
is what some calls of handlers have made of it (`Registry.calls_dispatch`, `Surface.calls_subscriptionResult`), and
what every handler keeps is kept by every command.
-/

namespace PedestrianControl

variable {σ : Type}

namespace Registry

/-- What one call of a handler makes of a state. -/
inductive Call (r : Registry σ) (state : σ) : σ → Prop
  | of_mem {s : Surface σ} {b : Binding σ} (hs : s ∈ r.surfaces) (hb : b ∈ s.bindings)
      (request : ValueRequest) : Call r state (b.handler request state).2

/-- What any number of calls make of a state. -/
def Calls (r : Registry σ) : σ → σ → Prop := Relation.ReflTransGen r.Call

end Registry

namespace Surface

variable {r : Registry σ} {s : Surface σ}

/-- All that a surface does to the state for a request is to call a handler, if one is bound. -/
theorem calls_call (hs : s ∈ r.surfaces) (o : Opcode) (request : ValueRequest) (state : σ) :
    r.Calls state (s.call o request state).2 := by
  rw [call]
  cases hhandler : s.handler? o request.var with
  | none => exact .refl
  | some handler =>
    obtain ⟨b, hb, -, rfl⟩ := exists_of_handler? hhandler
    exact .single (.of_mem hs hb request)

/-- A value of a subscription calls one handler at most. -/
theorem calls_subscribedValue (hs : s ∈ r.surfaces) (element : String) (var : UInt8) (state : σ) :
    r.Calls state (s.subscribedValue element var state).2 := by
  rw [subscribedValue_snd]
  exact calls_call hs s.opcodes.get ⟨var, element, none⟩ state

/-- A subscription's result comes from calls, one for each variable, each in the state that the one before left. -/
theorem calls_subscriptionResult (hs : s ∈ r.surfaces) (element : String) (vars : List UInt8)
    (state : σ) : r.Calls state (s.subscriptionResult element vars state).2 := by
  show r.Calls state (vars.mapM (s.subscribedValue element) state).2
  induction vars generalizing state with
  | nil => exact .refl
  | cons var vars ih =>
    rw [StateM.mapM_cons]
    exact (calls_subscribedValue hs element var state).trans (ih _)

/-- The answer to a get comes from one call at most. -/
theorem calls_answerGet (hs : s ∈ r.surfaces) (o : Opcode) (var : UInt8) (element : String)
    (state : σ) : r.Calls state (s.answerGet o var element state).2 := by
  rw [answerGet_snd]
  exact calls_call hs o ⟨var, element, none⟩ state

/-- The answer to a set comes from one call at most. -/
theorem calls_answerSet (hs : s ∈ r.surfaces) (o : Opcode) (var : UInt8) (element : String)
    (value : TypedValue) (state : σ) : r.Calls state (s.answerSet o var element value state).2 := by
  rw [answerSet_snd]
  exact calls_call hs o ⟨var, element, some value⟩ state

end Surface

namespace Registry

/-- Whatever a command is answered, all that it does to the state is to call handlers. -/
theorem calls_dispatch (r : Registry σ) (c : Command) (state : σ) :
    r.Calls state (r.dispatch c state).2 := by
  rw [dispatch]
  cases hs : r.surface? c.opcode with
  | none => exact .refl
  | some s =>
    have hmem := mem_of_surface? hs
    cases c with
    | get o var element => exact s.calls_answerGet hmem o var element state
    | set o var element value => exact s.calls_answerSet hmem o var element value state
    | _ => exact .refl

end Registry

end PedestrianControl
