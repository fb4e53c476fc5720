import PedestrianControl.Proofs.Api.Surface

/-!
# Handlers that fail

A handler may change the state before it fails, and a get may change it as well. The handlers of the server
do neither. `Surface.FailsClean` says so of a surface: gets only read, and whatever fails leaves the state
as it was and says why. It is a matter of the single handlers, and each of these is either `Handler.reading`
or `Handler.changing`, so all that remains to be seen of them is that their errors have a wording.
-/

namespace PedestrianControl

open Text (hexByte)

variable {σ : Type}

/-! ## Wordings -/

/-- A text that begins with some text is not empty. -/
theorem Text.append_ne_empty_left {s : String} (h : s ≠ "") (t : String) : s ++ t ≠ "" :=
  fun hempty => h (String.append_eq_empty_iff.1 hempty).1

/-- A text that ends in some text is not empty. -/
theorem Text.append_ne_empty_right (s : String) {t : String} (h : t ≠ "") : s ++ t ≠ "" :=
  fun hempty => h (String.append_eq_empty_iff.1 hempty).2

/-- A byte is told in some digits. -/
theorem Text.hexByte_ne_empty (b : UInt8) : hexByte b ≠ "" := by
  simp [hexByte]

namespace HandlerError

/-- The error of a missing element says something, whatever the element. -/
theorem message_elementNotFound_ne_empty (element : String) :
    (elementNotFound element).message ≠ "" :=
  Text.append_ne_empty_right _ (by decide)

/-- The error of an invalid value says something, whatever the reason. -/
theorem message_invalidValue_ne_empty (reason : String) : (invalidValue reason).message ≠ "" :=
  Text.append_ne_empty_left (by decide) _

/-- An outcome that says why if it is an error. -/
def Explained {α : Type} (outcome : Except HandlerError α) : Prop :=
  ∀ e, outcome = .error e → e.message ≠ ""

namespace Explained

variable {α β : Type}

/-- A success needs no explanation. -/
theorem ok (a : α) : Explained (.ok a) := nofun

/-- An error with a message is explained. -/
theorem error {e : HandlerError} (h : e.message ≠ "") : Explained (.error e : Except _ α) := by
  rintro e' ⟨⟩
  exact h

/-- An invalid value is always explained. -/
theorem invalidValue (reason : String) : Explained (.error (.invalidValue reason) : Except _ α) :=
  error (message_invalidValue_ne_empty reason)

/-- One step after another fails with an explanation if both do. -/
theorem bind {x : Except HandlerError α} {f : α → Except HandlerError β} (hx : Explained x)
    (hf : ∀ a, Explained (f a)) : Explained (x >>= f) := by
  cases x with
  | error e => exact error (hx e rfl)
  | ok a => exact hf a

/-- What is made of a result in the end does not touch its errors. -/
theorem map {x : Except HandlerError α} (hx : Explained x) (f : α → β) : Explained (f <$> x) := by
  cases x with
  | error e => exact error (hx e rfl)
  | ok a => exact ok (f a)

end Explained

end HandlerError

/-! ## Handlers -/

namespace Handler

/-- A handler that never changes the state. -/
def ReadsOnly (handler : Handler σ) : Prop := ∀ r state, (handler r state).2 = state

/-- A handler that says why it fails, and then has not changed the state. -/
def FailsClean (handler : Handler σ) : Prop :=
  ∀ r state e after, handler r state = (.error e, after) → e.message ≠ "" ∧ after = state

/-- A handler that only tells something leaves every state as it was. -/
theorem readsOnly_reading (read : ValueRequest → σ → Except HandlerError TypedValue) :
    (reading read).ReadsOnly :=
  fun _ _ => rfl

/-- A handler that only tells something fails clean as soon as its errors say why. -/
theorem failsClean_reading {read : ValueRequest → σ → Except HandlerError TypedValue}
    (h : ∀ r state, HandlerError.Explained (read r state)) : (reading read).FailsClean := by
  intro r state e after hfail
  obtain ⟨houtcome, rfl⟩ := Prod.mk.inj hfail
  exact ⟨(h r _).map some e houtcome, rfl⟩

/-- A handler that changes the state by a function fails clean as soon as the errors of the function say why; the
state is only put in place after a success. -/
theorem failsClean_changing {change : ValueRequest → σ → Except HandlerError σ}
    (h : ∀ r state, HandlerError.Explained (change r state)) : (changing change).FailsClean := by
  intro r state e after hfail
  rw [changing] at hfail
  split at hfail
  · cases hfail
  · rename_i e' hchange
    cases hfail
    exact ⟨h r state e hchange, rfl⟩

end Handler

/-! ## Surfaces -/

namespace Surface

/-- A surface whose gets only read, and on which whatever fails changes nothing and says why. -/
structure FailsClean (s : Surface σ) : Prop where
  readsOnly : ∀ b ∈ s.bindings, b.opcode.category = .get → b.handler.ReadsOnly
  failsClean : ∀ b ∈ s.bindings, b.handler.FailsClean

/-- The error of a variable without a handler says something. -/
theorem message_unbound_ne_empty (s : Surface σ) (o : Opcode) (var : UInt8) :
    (s.unbound o var).message ≠ "" :=
  Text.append_ne_empty_right _ (Text.hexByte_ne_empty o.code)

/-- The error of a handler without a value says something. -/
theorem message_noValue_ne_empty (var : UInt8) : (noValue var).message ≠ "" :=
  Text.append_ne_empty_right _ (by decide)

namespace FailsClean

variable {s : Surface σ} {o : Opcode} {state after : σ} {e : HandlerError}

/-- A call that fails says why and leaves the state as it was, whether or not there is a handler. -/
theorem call {r : ValueRequest} (h : s.FailsClean) (hfail : s.call o r state = (.error e, after)) :
    e.message ≠ "" ∧ after = state := by
  rw [Surface.call] at hfail
  cases hhandler : s.handler? o r.var with
  | none =>
    rw [hhandler] at hfail
    cases hfail
    exact ⟨s.message_unbound_ne_empty o r.var, rfl⟩
  | some handler =>
    rw [hhandler] at hfail
    obtain ⟨b, hb, -, rfl⟩ := exists_of_handler? hhandler
    exact h.failsClean b hb r state e after hfail

/-- A call under a get's opcode leaves the state as it was, whatever becomes of it. -/
theorem call_readsOnly (h : s.FailsClean) (ho : o.category = .get) (r : ValueRequest) (state : σ) :
    (s.call o r state).2 = state := by
  rw [Surface.call]
  cases hhandler : s.handler? o r.var with
  | none => rfl
  | some handler =>
    obtain ⟨b, hb, rfl, rfl⟩ := exists_of_handler? hhandler
    exact h.readsOnly b hb ho r state

end FailsClean

end Surface

/-- A registry whose surfaces change nothing where they fail. -/
def Registry.FailsClean (r : Registry σ) : Prop := ∀ s ∈ r.surfaces, s.FailsClean

/-- The surface that claims an opcode is one of those that fail clean. -/
theorem Registry.FailsClean.surface {r : Registry σ} {o : Opcode} {s : Surface σ} (h : r.FailsClean)
    (hs : r.surface? o = some s) : s.FailsClean :=
  h s (mem_of_surface? hs)

/-! ## The registry of the server -/

/-- That a value is required is explained. -/
theorem ValueRequest.explained_required (r : ValueRequest) : HandlerError.Explained r.required := by
  rw [required]
  split
  · exact .ok _
  · exact .invalidValue _

namespace Clock

/-- What is told of the whole world never fails. -/
theorem failsClean_telling (tell : World → TypedValue) : (telling tell).FailsClean :=
  Handler.failsClean_reading fun _ w => .ok (tell w)

/-- A refused length of a step is explained. -/
theorem explained_setDeltaT (r : ValueRequest) (w : World) :
    HandlerError.Explained (setDeltaT r w) := by
  refine r.explained_required.bind fun v => ?_
  split
  · exact .invalidValue _
  · split
    · exact .ok _
    · exact .invalidValue _

/-- The clock's surface fails clean, handler by handler. -/
theorem failsClean_surface : surface.FailsClean where
  readsOnly := by
    simp only [surface, List.forall_mem_cons]
    exact ⟨fun _ => Handler.readsOnly_reading _, fun _ => Handler.readsOnly_reading _,
      fun _ => Handler.readsOnly_reading _, fun hset => absurd hset (by decide),
      List.forall_mem_nil _⟩
  failsClean := by
    simp only [surface, List.forall_mem_cons]
    exact ⟨failsClean_telling _, failsClean_telling _, failsClean_telling _,
      Handler.failsClean_changing explained_setDeltaT, List.forall_mem_nil _⟩

end Clock

namespace Person

/-- A name that nobody has is explained. -/
theorem explained_named (w : World) (element : String) :
    HandlerError.Explained (named w element) := by
  rw [named]
  split
  · exact .ok _
  · exact .error (HandlerError.message_elementNotFound_ne_empty element)

/-- A value of another type than the expected one is explained. -/
theorem explained_expect (r : ValueRequest) (t : DataType) :
    HandlerError.Explained (expect r t) := by
  refine r.explained_required.bind fun v => ?_
  split
  · exact .ok v
  · exact .invalidValue _

/-- A change of somebody fails only for a name that nobody has. -/
theorem explained_changeNamed (w : World) (element : String) {f : Pedestrian → Pedestrian}
    (keeps : ∀ p, (f p).id = p.id) : HandlerError.Explained (changeNamed w element f keeps) :=
  (explained_named w element).bind fun _ => .ok _

/-- A refused speed is explained. -/
theorem explained_setSpeed (r : ValueRequest) (w : World) :
    HandlerError.Explained (setSpeed r w) := by
  refine (explained_expect r .double).bind fun v => ?_
  dsimp only
  split
  · exact explained_changeNamed w r.element _
  · exact .invalidValue _

/-- A refused position is explained. -/
theorem explained_setPosition (r : ValueRequest) (w : World) :
    HandlerError.Explained (setPosition r w) :=
  (explained_expect r .pos2d).bind fun _ => explained_changeNamed w r.element _

/-- What is told of one pedestrian fails only for a name that nobody has. -/
theorem failsClean_telling (tell : Pedestrian → TypedValue) : (telling tell).FailsClean :=
  Handler.failsClean_reading fun r w => (explained_named w r.element).map tell

/-- A get of the table that tells something of the named pedestrian or of the whole world. -/
theorem readsOnly_getter (v : PersonVariable)
    (read : ValueRequest → World → Except HandlerError TypedValue) :
    (getter v (.reading read)).handler.ReadsOnly :=
  Handler.readsOnly_reading read

/-- The surface of pedestrians fails clean, handler by handler. -/
theorem failsClean_surface : surface.FailsClean where
  readsOnly := by
    simp only [surface, List.forall_mem_cons]
    exact ⟨fun _ => readsOnly_getter _ _, fun _ => readsOnly_getter _ _,
      fun _ => readsOnly_getter _ _, fun _ => readsOnly_getter _ _, fun _ => readsOnly_getter _ _,
      fun _ => readsOnly_getter _ _, fun _ => readsOnly_getter _ _, fun _ => readsOnly_getter _ _,
      fun _ => readsOnly_getter _ _, fun _ => readsOnly_getter _ _,
      fun hset => absurd hset (by decide), fun hset => absurd hset (by decide),
      List.forall_mem_nil _⟩
  failsClean := by
    simp only [surface, List.forall_mem_cons, getter, setter]
    exact ⟨Handler.failsClean_reading fun _ _ => .ok _, Handler.failsClean_reading fun _ _ => .ok _,
      failsClean_telling _, failsClean_telling _, failsClean_telling _, failsClean_telling _,
      failsClean_telling _, failsClean_telling _, failsClean_telling _, failsClean_telling _,
      Handler.failsClean_changing explained_setSpeed,
      Handler.failsClean_changing explained_setPosition, List.forall_mem_nil _⟩

end Person

/-- Both surfaces of the server change nothing where they fail. -/
theorem Registry.failsClean_standard : Registry.standard.FailsClean := by
  intro s hs
  rcases List.mem_cons.1 hs with rfl | hs
  · exact Person.failsClean_surface
  · obtain rfl := List.mem_singleton.1 hs
    exact Clock.failsClean_surface

end PedestrianControl
