import Mathlib.Data.List.Forall2
import PedestrianControl.Proofs.Api.Building

/-!
# Subscribing and polling

The values of a subscription and the answers to gets are put together in two places, and a surface's handlers may
change the state as they please. Both call the same handler, but each has a way of its own to go on from there:
a subscription makes a missing value an error before it tells values from errors, and the answer to a get has a case
for it. They agree in each case (`Surface.subscribedValue_echoes`). So a subscription tells, variable by variable, what
the gets would be answered (`SubscribedValue.Echoes`), and leaves the state that the gets would leave when they are
dispatched one after the other (`Surface.subscriptionResult_eq_polled`).
-/

namespace PedestrianControl

variable {σ : Type}

/-- The answer to a get that was granted, with the value that was asked for. -/
def Response.Gives (answer : Response) (v : TypedValue) : Prop :=
  answer.status.result = .ok ∧ answer.value? = some v

/-- A subscribed value tells what a get is answered: the value, or else the result and the description. -/
structure SubscribedValue.Echoes (s : SubscribedValue) (answer : Response) : Prop where
  ok_iff : ∀ v, s.status = .ok ∧ s.value = v ↔ answer.Gives v
  of_refused : (∀ v, ¬answer.Gives v) →
    s.status = answer.status.result ∧ s.value = .string answer.status.description

/-- No handler error has the result of a success. -/
theorem HandlerError.result_ne_ok (e : HandlerError) : e.result ≠ .ok := by
  cases e <;> exact ResultCode.noConfusion

namespace SubscribedValue

/-- A reported value tells what the granted get with the same value tells. -/
theorem echoes_value (o : Opcode) (report : ValueReport) :
    (⟨report.var, .ok, report.value⟩ : SubscribedValue).Echoes (.withBody o (.value report)) where
  ok_iff v := by simp [Response.Gives, Response.withBody, Response.value?]
  of_refused hrefused := absurd ⟨rfl, rfl⟩ (hrefused report.value)

/-- The text of an error tells what the answer with the same error tells. -/
theorem echoes_error (o : Opcode) (var : UInt8) (e : HandlerError) :
    (⟨var, e.result, .string e.message⟩ : SubscribedValue).Echoes (e.response o) where
  ok_iff v := by simp [Response.Gives, HandlerError.response, e.result_ne_ok]
  of_refused _ := ⟨rfl, rfl⟩

end SubscribedValue

namespace Surface

variable {s : Surface σ} {r : Registry σ}

/-- A value of a subscription and the answer to a get tell the same and leave the same state. -/
theorem subscribedValue_echoes (element : String) (var : UInt8) (state : σ) :
    let subscribed := s.subscribedValue element var state
    let polled := s.answerGet s.opcodes.get var element state
    subscribed.1.var = var ∧ subscribed.1.Echoes polled.1 ∧ subscribed.2 = polled.2 := by
  rw [subscribedValue_apply, answerGet_apply]
  -- the handler fails, gives no value, or gives one
  rcases s.call s.opcodes.get ⟨var, element, none⟩ state with ⟨e | _ | v, after⟩
  · exact ⟨rfl, SubscribedValue.echoes_error _ var e, rfl⟩
  · exact ⟨rfl, SubscribedValue.echoes_error _ var (noValue var), rfl⟩
  · exact ⟨rfl, SubscribedValue.echoes_value _ ⟨s.opcodes.getResponse, var, element, v⟩, rfl⟩

/-- A get that is sent to a surface's own opcode is answered by this surface. -/
theorem dispatch_get (h : r.surface? s.opcodes.get = some s) (var : UInt8) (element : String) :
    r.dispatch (.get s.opcodes.get var element) = s.answerGet s.opcodes.get var element := by
  rw [Registry.dispatch, Command.opcode, h]

/-- The gets that ask for what a subscription reports. -/
def gets (s : Surface σ) (element : String) (vars : List UInt8) : List Command :=
  vars.map fun var => .get s.opcodes.get var element

/-- The values of a subscription tell what the gets are answered, whatever the handlers do to the state. -/
theorem mapM_subscribedValue_echoes (h : r.surface? s.opcodes.get = some s) (element : String)
    (vars : List UInt8) (state : σ) :
    let subscribed := vars.mapM (s.subscribedValue element) state
    let polled := (s.gets element vars).mapM r.dispatch state
    subscribed.1.map (·.var) = vars ∧
      List.Forall₂ SubscribedValue.Echoes subscribed.1 polled.1 ∧ subscribed.2 = polled.2 := by
  -- a get may change the state, so the later variables are read from another one
  induction vars generalizing state with
  | nil => exact ⟨rfl, .nil, rfl⟩
  | cons var rest ih =>
    obtain ⟨hvar, hechoes, hstate⟩ := s.subscribedValue_echoes element var state
    obtain ⟨hvars, hothers, hafter⟩ := ih (s.subscribedValue element var state).2
    rw [hstate] at hvars hothers hafter
    rw [gets, List.map_cons, StateM.mapM_cons, StateM.mapM_cons, dispatch_get h]
    dsimp only
    rw [hstate]
    exact ⟨congrArg₂ List.cons hvar hvars, .cons hechoes hothers, hafter⟩

/-- In every registry that builds, a subscription reports one value for each variable, in order. Each tells what the
get of this variable is answered when the gets are dispatched one after the other, and the state that is left is the
same. -/
theorem subscriptionResult_eq_polled {surfaces : List (Surface σ)}
    (hbuild : Registry.build surfaces = .ok r) (hs : s ∈ surfaces) (element : String) (vars : List UInt8)
    (state : σ) :
    let subscribed := s.subscriptionResult element vars state
    let polled := (s.gets element vars).mapM r.dispatch state
    subscribed.1.values.map (·.var) = vars ∧
      List.Forall₂ SubscribedValue.Echoes subscribed.1.values polled.1 ∧ subscribed.2 = polled.2 := by
  obtain ⟨-, hnodup, rfl⟩ := Registry.build_eq_ok_iff.1 hbuild
  have hsurface : (⟨surfaces⟩ : Registry σ).surface? s.opcodes.get = some s :=
    Registry.surface?_of_mem hnodup hs List.mem_cons_self
  exact mapM_subscribedValue_echoes hsurface element vars state

/-- The first handler counts the calls, the second changes the count before it fails, and the third has no value to
give. The first variable is asked for twice, and the last has no handler. -/
theorem subscriptionResult_eq_polled_counter :
    let tally : Handler Nat := fun _ n => (.ok (some (.integer (Int32.ofNat n))), n + 1)
    let spoiled : Handler Nat := fun r n => (.error (.elementNotFound r.element), n + 10)
    let silent : Handler Nat := fun _ n => (.ok none, n)
    let opcodes : SurfaceOpcodes := ⟨.getPerson, .setPerson, .subscribePerson, .getPersonResponse,
      .subscribePersonResponse⟩
    let s : Surface Nat := ⟨"counter", opcodes, fun _ => none,
      [⟨.getPerson, 1, tally⟩, ⟨.getPerson, 2, spoiled⟩, ⟨.getPerson, 3, silent⟩]⟩
    let subscribed := s.subscriptionResult "7" [1, 2, 1, 3, 4] 5
    let polled := (s.gets "7" [1, 2, 1, 3, 4]).mapM (Registry.dispatch ⟨[s]⟩) 5
    Registry.build [s] = .ok ⟨[s]⟩ ∧ s ∈ [s] ∧
      subscribed.1.values.map (·.status) = [.ok, .error, .ok, .error, .notImplemented] ∧
      subscribed.2 = 17 ∧ subscribed.1.values.map (·.var) = [1, 2, 1, 3, 4] ∧
      List.Forall₂ SubscribedValue.Echoes subscribed.1.values polled.1 ∧ subscribed.2 = polled.2 := by
  intro tally spoiled silent opcodes s subscribed polled
  have hbuild : Registry.build [s] = .ok ⟨[s]⟩ := rfl
  have hs : s ∈ [s] := List.mem_singleton.2 rfl
  exact ⟨hbuild, hs, rfl, rfl, subscriptionResult_eq_polled hbuild hs "7" [1, 2, 1, 3, 4] 5⟩

end Surface

end PedestrianControl
