import PedestrianControl.Api.Standard
import PedestrianControl.Proofs.Wire.Response
import PedestrianControl.Subscription.Registry

/-!
# How surfaces run

A surface works in the state: each of its operations gives an answer and leaves a state. The equations
here say what the pair is, in terms of the handler that is called (`call`). From them follows what a
sound surface can answer: only values and results that can be written, under opcodes of replies.
-/

namespace PedestrianControl

variable {σ : Type}

/-- A list is worked through in order, each element in the state that the one before left. -/
theorem StateM.mapM_cons {α β : Type} (f : α → StateM σ β) (a : α) (rest : List α) (state : σ) :
    (a :: rest).mapM f state =
      let first := f a state
      let others := rest.mapM f first.2
      (first.1 :: others.1, others.2) := by
  rw [List.mapM_cons]
  rfl

namespace Surface

variable {s : Surface σ} {state : σ}

/-! ## Equations -/

/-- A handler without a value is reported in a subscription as one that fails with `noValue`. -/
theorem subscribedValue_apply (element : String) (var : UInt8) :
    s.subscribedValue element var state =
      match s.call s.opcodes.get ⟨var, element, none⟩ state with
      | (.ok (some v), after) => (⟨var, .ok, v⟩, after)
      | (.ok none, after) => (⟨var, (noValue var).result, .string (noValue var).message⟩, after)
      | (.error e, after) => (⟨var, e.result, .string e.message⟩, after) := by
  rw [subscribedValue]
  simp only [bind, StateT.bind, ExceptT.run]
  rcases s.call s.opcodes.get ⟨var, element, none⟩ state with ⟨_ | _ | _, after⟩ <;> rfl

/-- A get is answered with the value, with the error, or with the error of a handler without a value. -/
theorem answerGet_apply (o : Opcode) (var : UInt8) (element : String) :
    s.answerGet o var element state =
      match s.call o ⟨var, element, none⟩ state with
      | (.ok (some v), after) =>
        (.withBody o (.value ⟨s.opcodes.getResponse, var, element, v⟩), after)
      | (.ok none, after) => ((noValue var).response o, after)
      | (.error e, after) => (e.response o, after) := by
  rw [answerGet]
  simp only [bind, StateT.bind, ExceptT.run]
  rcases s.call o ⟨var, element, none⟩ state with ⟨_ | _ | _, after⟩ <;> rfl

/-- A set is answered with success, whatever its handler gives, or with the error. -/
theorem answerSet_apply (o : Opcode) (var : UInt8) (element : String) (value : TypedValue) :
    s.answerSet o var element value state =
      match s.call o ⟨var, element, some value⟩ state with
      | (.ok _, after) => (.ok o, after)
      | (.error e, after) => (e.response o, after) := by
  rw [answerSet]
  simp only [bind, StateT.bind, ExceptT.run]
  rcases s.call o ⟨var, element, some value⟩ state with ⟨_ | _, after⟩ <;> rfl

/-- A value of a subscription leaves the state that its call leaves. -/
theorem subscribedValue_snd (element : String) (var : UInt8) :
    (s.subscribedValue element var state).2 = (s.call s.opcodes.get ⟨var, element, none⟩ state).2 := by
  rw [subscribedValue_apply]
  split <;> simp only [*]

/-- The answer to a get leaves the state that its call leaves. -/
theorem answerGet_snd (o : Opcode) (var : UInt8) (element : String) :
    (s.answerGet o var element state).2 = (s.call o ⟨var, element, none⟩ state).2 := by
  rw [answerGet_apply]
  split <;> simp only [*]

/-- The answer to a set leaves the state that its call leaves. -/
theorem answerSet_snd (o : Opcode) (var : UInt8) (element : String) (value : TypedValue) :
    (s.answerSet o var element value state).2 = (s.call o ⟨var, element, some value⟩ state).2 := by
  rw [answerSet_apply]
  split <;> simp only [*]

/-- A handler that is found for an opcode and a variable is bound to the opcode. -/
theorem exists_of_handler? {o : Opcode} {var : UInt8} {handler : Handler σ}
    (h : s.handler? o var = some handler) : ∃ b ∈ s.bindings, b.opcode = o ∧ b.handler = handler := by
  obtain ⟨b, hfind, hhandler⟩ := Option.map_eq_some_iff.1 h
  have hkey := List.find?_some hfind
  rw [Bool.and_eq_true, beq_iff_eq] at hkey
  exact ⟨b, List.mem_of_find?_eq_some hfind, hkey.1, hhandler⟩

/-! ## Sound surfaces -/

/-- A surface whose replies carry opcodes of replies and whose handlers give only values that can be
written. -/
structure Sound (s : Surface σ) : Prop where
  getResponse_category : s.opcodes.getResponse.category = .response
  subscribeResponse_category : s.opcodes.subscribeResponse.category = .response
  polygonsFit : ∀ b ∈ s.bindings, ∀ (r : ValueRequest) (state : σ) (v : TypedValue),
    (b.handler r state).1 = .ok (some v) → v.PolygonsFit

/-- A value that a call gives comes from a handler of the surface, and so it can be written. -/
theorem Sound.call_polygonsFit (h : s.Sound) {o : Opcode} {r : ValueRequest} {v : TypedValue}
    (hv : (s.call o r state).1 = .ok (some v)) : v.PolygonsFit := by
  rw [call] at hv
  cases hhandler : s.handler? o r.var with
  | none =>
    rw [hhandler] at hv
    cases hv
  | some handler =>
    rw [hhandler] at hv
    obtain ⟨b, hb, -, rfl⟩ := exists_of_handler? hhandler
    exact h.polygonsFit b hb r state v hv

/-- A subscribed value can be written; an error is a text, which always can. -/
theorem Sound.subscribedValue_polygonsFit (h : s.Sound) (element : String) (var : UInt8) :
    (s.subscribedValue element var state).1.value.PolygonsFit := by
  rw [subscribedValue_apply]
  rcases hcall : s.call s.opcodes.get ⟨var, element, none⟩ state with ⟨e | _ | v, after⟩
  · trivial
  · trivial
  · exact h.call_polygonsFit (congrArg Prod.fst hcall)

/-- The result of a subscription to not too many variables can be written. -/
theorem Sound.subscriptionResult_countsFit (h : s.Sound) (element : String) {vars : List UInt8}
    (hvars : vars.length ≤ 255) : (s.subscriptionResult element vars state).1.CountsFit := by
  -- a handler may change the state, so the statement is for every state
  have hvalues : ∀ (vars : List UInt8) (state : σ),
      (vars.mapM (s.subscribedValue element) state).1.length = vars.length ∧
        ∀ v ∈ (vars.mapM (s.subscribedValue element) state).1, v.value.PolygonsFit := by
    intro vars
    induction vars with
    | nil => exact fun _ => ⟨rfl, nofun⟩
    | cons var vars ih =>
      intro state
      rw [StateM.mapM_cons]
      obtain ⟨hlength, hfit⟩ := ih (s.subscribedValue element var state).2
      refine ⟨congrArg (· + 1) hlength, ?_⟩
      exact List.forall_mem_cons.2 ⟨h.subscribedValue_polygonsFit element var, hfit⟩
  obtain ⟨hlength, hfit⟩ := hvalues vars state
  exact ⟨Nat.le_trans (Nat.le_of_eq hlength) hvars, hfit⟩

end Surface

namespace Registry

variable {r : Registry σ} {o : Opcode} {s : Surface σ}

/-- The surface that claims an opcode is one of the registry's. -/
theorem mem_of_surface? (hs : r.surface? o = some s) : s ∈ r.surfaces :=
  List.mem_of_find?_eq_some hs

/-- A registry of sound surfaces. -/
def Sound (r : Registry σ) : Prop := ∀ s ∈ r.surfaces, s.Sound

/-- The surface that claims an opcode is sound if all are. -/
theorem Sound.surface (h : r.Sound) (hs : r.surface? o = some s) : s.Sound :=
  h s (mem_of_surface? hs)

end Registry

/-! ## The registry of the server -/

/-- A handler that only tells something gives values that can be written if what it tells can be. -/
theorem Handler.polygonsFit_reading {read : ValueRequest → σ → Except HandlerError TypedValue}
    (h : ∀ r state v, read r state = .ok v → v.PolygonsFit) (r : ValueRequest) (state : σ)
    (v : TypedValue) (hv : (Handler.reading read r state).1 = .ok (some v)) : v.PolygonsFit := by
  cases hread : read r state with
  | error e =>
    rw [Handler.reading, hread] at hv
    cases hv
  | ok w =>
    rw [Handler.reading, hread] at hv
    cases hv
    exact h r state v hread

/-- A handler that changes the state gives no value, and so none that could not be written. -/
theorem Handler.polygonsFit_changing {change : ValueRequest → σ → Except HandlerError σ}
    (r : ValueRequest) (state : σ) (v : TypedValue)
    (hv : (Handler.changing change r state).1 = .ok (some v)) : v.PolygonsFit := by
  cases hchange : change r state with
  | error e =>
    simp only [Handler.changing, hchange] at hv
    cases hv
  | ok after =>
    simp only [Handler.changing, hchange] at hv
    cases hv

/-- A handler that tells something of the whole world. -/
theorem Clock.polygonsFit_telling {tell : World → TypedValue} (h : ∀ w, (tell w).PolygonsFit)
    (r : ValueRequest) (w : World) (v : TypedValue) (hv : (telling tell r w).1 = .ok (some v)) :
    v.PolygonsFit := by
  refine Handler.polygonsFit_reading (fun r w v hread => ?_) r w v hv
  cases hread
  exact h w

/-- A handler that tells something of the named pedestrian. -/
theorem Person.polygonsFit_telling {tell : Pedestrian → TypedValue}
    (h : ∀ p, (tell p).PolygonsFit) (r : ValueRequest) (w : World) (v : TypedValue)
    (hv : (telling tell r w).1 = .ok (some v)) : v.PolygonsFit := by
  refine Handler.polygonsFit_reading (fun r w v hread => ?_) r w v hv
  cases hnamed : named w r.element with
  | error e =>
    rw [hnamed] at hread
    cases hread
  | ok p =>
    rw [hnamed] at hread
    cases hread
    exact h p

/-- The clock's surface is sound. -/
theorem Clock.sound_surface : Clock.surface.Sound where
  getResponse_category := rfl
  subscribeResponse_category := rfl
  polygonsFit := by
    simp only [surface, List.forall_mem_cons]
    exact ⟨polygonsFit_telling fun _ => trivial, polygonsFit_telling fun _ => trivial,
      polygonsFit_telling fun _ => trivial, Handler.polygonsFit_changing, nofun⟩

/-- The surface of pedestrians is sound. -/
theorem Person.sound_surface : Person.surface.Sound where
  getResponse_category := rfl
  subscribeResponse_category := rfl
  polygonsFit := by
    simp only [surface, List.forall_mem_cons, getter, setter]
    exact ⟨Clock.polygonsFit_telling fun _ => trivial, Clock.polygonsFit_telling fun _ => trivial,
      polygonsFit_telling fun _ => trivial, polygonsFit_telling fun _ => trivial,
      polygonsFit_telling fun _ => trivial, polygonsFit_telling fun _ => trivial,
      polygonsFit_telling fun _ => trivial, polygonsFit_telling fun _ => trivial,
      polygonsFit_telling fun _ => trivial, polygonsFit_telling fun _ => trivial,
      Handler.polygonsFit_changing, Handler.polygonsFit_changing, nofun⟩

/-- Both surfaces of the server are sound. -/
theorem Registry.sound_standard : Registry.standard.Sound := by
  intro s hs
  rcases List.mem_cons.1 hs with rfl | hs
  · exact Person.sound_surface
  · obtain rfl := List.mem_singleton.1 hs
    exact Clock.sound_surface

end PedestrianControl
