import PedestrianControl.Proofs.Api.Calls
import PedestrianControl.Proofs.Api.Size

/-!
# What sets write

Gets and sets have three ways to change a world, and each has been checked before: a positive step length, an
admissible speed of one pedestrian, or a position of one (`World.Written`). When a set succeeds, and what it
then comes to, is one lemma for each of them, such as `Person.setSpeed_eq_ok_iff`. Every call of a handler
writes in one of these ways or not at all (`World.written_of_call`).
-/

namespace PedestrianControl

/-- Where one after the other succeeds, both do. -/
theorem Except.eq_ok_of_bind_eq_ok {ε α β : Type} {first : Except ε α} {next : α → Except ε β} {b : β}
    (h : first >>= next = .ok b) : ∃ a, first = .ok a ∧ next a = .ok b := by
  cases first with
  | error e => cases h
  | ok a => exact ⟨a, rfl, h⟩

/-- One after the other succeeds exactly if both do. -/
theorem Except.bind_eq_ok_iff {ε α β : Type} {first : Except ε α} {next : α → Except ε β} {b : β} :
    first >>= next = .ok b ↔ ∃ a, first = .ok a ∧ next a = .ok b := by
  refine ⟨eq_ok_of_bind_eq_ok, ?_⟩
  rintro ⟨a, rfl, h⟩
  exact h

/-- An outcome that is a value when its error is forgotten is this value. -/
theorem Except.eq_ok_of_toOption {ε α : Type} {x : Except ε α} {a : α} (h : x.toOption = some a) :
    x = .ok a := by
  cases x with
  | error e => cases h
  | ok b => exact congrArg Except.ok (Option.some.inj h)

/-! ## When sets succeed -/

section Handlers

variable {r : ValueRequest} {w after : World}

/-- A value that is required is had exactly if the request has it. -/
theorem ValueRequest.required_eq_ok_iff {v : TypedValue} : r.required = .ok v ↔ r.value = some v := by
  refine ⟨value_of_required, fun h => ?_⟩
  rw [required, h]

namespace Person

/-- A value of a type is had exactly if the request has one of this type. -/
theorem expect_eq_ok_iff {t : DataType} {v : TypedValue} :
    expect r t = .ok v ↔ r.value = some v ∧ v.dataType = t := by
  refine ⟨value_of_expect, fun ⟨hvalue, htype⟩ => ?_⟩
  refine Except.bind_eq_ok_iff.2 ⟨v, ValueRequest.required_eq_ok_iff.2 hvalue, ?_⟩
  rw [if_pos htype]

/-- A change of a named pedestrian succeeds exactly if there is one of that name. -/
theorem changeNamed_eq_ok_iff {element : String} {f : Pedestrian → Pedestrian}
    {keeps : ∀ p, (f p).id = p.id} :
    changeNamed w element f keeps = .ok after ↔
      ∃ p, named? w element = some p ∧ { w with crowd := w.crowd.modify p.id f keeps } = after := by
  rw [changeNamed, named, Except.bind_eq_ok_iff]
  cases named? w element <;> simp

/-- A speed is set exactly if it is admissible and the pedestrian is there. -/
theorem setSpeed_eq_ok_iff :
    setSpeed r w = .ok after ↔ ∃ speed p, r.value = some (.double speed) ∧ speed.isAdmissibleSpeed = true ∧
      named? w r.element = some p ∧
      { w with crowd := w.crowd.modify p.id ({ · with speed }) fun _ => rfl } = after := by
  rw [setSpeed, Except.bind_eq_ok_iff]
  constructor
  · rintro ⟨v, hv, h⟩
    obtain ⟨hvalue, htype⟩ := expect_eq_ok_iff.1 hv
    obtain ⟨speed, rfl⟩ := TypedValue.exists_double_of_dataType htype
    dsimp only [TypedValue.asDouble?, Option.getD_some] at h
    split at h
    · rename_i hspeed
      obtain ⟨p, hp, hafter⟩ := changeNamed_eq_ok_iff.1 h
      exact ⟨speed, p, hvalue, hspeed, hp, hafter⟩
    · cases h
  · rintro ⟨speed, p, hvalue, hspeed, hp, hafter⟩
    refine ⟨.double speed, expect_eq_ok_iff.2 ⟨hvalue, rfl⟩, ?_⟩
    dsimp only [TypedValue.asDouble?, Option.getD_some]
    rw [if_pos hspeed]
    exact changeNamed_eq_ok_iff.2 ⟨p, hp, hafter⟩

/-- A position is set exactly if the pedestrian is there. -/
theorem setPosition_eq_ok_iff :
    setPosition r w = .ok after ↔ ∃ position p, r.value = some (.pos2d position) ∧
      named? w r.element = some p ∧
      { w with crowd := w.crowd.modify p.id ({ · with position }) fun _ => rfl } = after := by
  rw [setPosition, Except.bind_eq_ok_iff]
  constructor
  · rintro ⟨v, hv, h⟩
    obtain ⟨hvalue, htype⟩ := expect_eq_ok_iff.1 hv
    cases v with
    | pos2d position =>
      obtain ⟨p, hp, hafter⟩ := changeNamed_eq_ok_iff.1 h
      exact ⟨position, p, hvalue, hp, hafter⟩
    | _ => cases htype
  · rintro ⟨position, p, hvalue, hp, hafter⟩
    refine ⟨.pos2d position, expect_eq_ok_iff.2 ⟨hvalue, rfl⟩, ?_⟩
    exact changeNamed_eq_ok_iff.2 ⟨p, hp, hafter⟩

end Person

/-- A step length is set exactly if it is positive. -/
theorem Clock.setDeltaT_eq_ok_iff :
    setDeltaT r w = .ok after ↔ ∃ seconds, r.value = some (.double seconds) ∧ seconds.isPositive = true ∧
      { w with stepLength := seconds } = after := by
  rw [setDeltaT, Except.bind_eq_ok_iff]
  simp only [ValueRequest.required_eq_ok_iff]
  constructor
  · rintro ⟨v, hvalue, h⟩
    split at h
    · cases h
    · rename_i seconds hseconds
      obtain rfl := TypedValue.eq_double_of_asDouble? hseconds
      split at h
      · rename_i hpositive
        exact ⟨seconds, hvalue, hpositive, Except.ok.inj h⟩
      · cases h
  · rintro ⟨seconds, hvalue, hpositive, rfl⟩
    refine ⟨.double seconds, hvalue, ?_⟩
    dsimp only [TypedValue.asDouble?]
    rw [if_pos hpositive]

end Handlers

/-! ## What sets make of a world -/

/-- What a set makes of a world. -/
inductive World.Written (w : World) : World → Prop
  | stepLength {seconds : Double} (h : seconds.isPositive = true) : Written w { w with stepLength := seconds }
  | speed (id : Int32) {speed : Double} (h : speed.isAdmissibleSpeed = true) :
      Written w { w with crowd := w.crowd.modify id ({ · with speed }) fun _ => rfl }
  | position (id : Int32) (position : Vec2) :
      Written w { w with crowd := w.crowd.modify id ({ · with position }) fun _ => rfl }

/-- A step length that is set is a write to the world. -/
theorem Clock.written_setDeltaT {r : ValueRequest} {w after : World} (h : setDeltaT r w = .ok after) :
    w.Written after := by
  obtain ⟨seconds, -, hpositive, rfl⟩ := setDeltaT_eq_ok_iff.1 h
  exact .stepLength hpositive

/-- A speed that is set is a write to the world. -/
theorem Person.written_setSpeed {r : ValueRequest} {w after : World} (h : setSpeed r w = .ok after) :
    w.Written after := by
  obtain ⟨speed, p, -, hspeed, -, rfl⟩ := setSpeed_eq_ok_iff.1 h
  exact .speed p.id hspeed

/-- A position that is set is a write to the world. -/
theorem Person.written_setPosition {r : ValueRequest} {w after : World} (h : setPosition r w = .ok after) :
    w.Written after := by
  obtain ⟨position, p, -, -, rfl⟩ := setPosition_eq_ok_iff.1 h
  exact .position p.id position

/-! ## Handlers -/

/-- A handler that changes a world only by writing. -/
def Handler.Writes (handler : Handler World) : Prop :=
  ∀ r w, (handler r w).2 = w ∨ w.Written (handler r w).2

namespace Handler

/-- A handler that only reads changes no world. -/
theorem writes_reading (read : ValueRequest → World → Except HandlerError TypedValue) :
    (reading read).Writes :=
  fun _ _ => .inl rfl

/-- A handler writes if every change that it makes is a write. -/
theorem writes_changing {change : ValueRequest → World → Except HandlerError World}
    (h : ∀ {r w after}, change r w = .ok after → w.Written after) : (changing change).Writes := by
  intro r w
  rw [changing]
  split
  · rename_i hchange
    exact .inr (h hchange)
  · exact .inl rfl

end Handler

/-- The clock's handlers change a world only by writing. -/
theorem Clock.writes_surface : ∀ b ∈ surface.bindings, b.handler.Writes := by
  simp only [surface, List.forall_mem_cons]
  exact ⟨Handler.writes_reading _, Handler.writes_reading _, Handler.writes_reading _,
    Handler.writes_changing written_setDeltaT, List.forall_mem_nil _⟩

/-- The pedestrians' handlers change a world only by writing. -/
theorem Person.writes_surface : ∀ b ∈ surface.bindings, b.handler.Writes := by
  simp only [surface, List.forall_mem_cons, getter, setter]
  exact ⟨Handler.writes_reading _, Handler.writes_reading _, Handler.writes_reading _,
    Handler.writes_reading _, Handler.writes_reading _, Handler.writes_reading _,
    Handler.writes_reading _, Handler.writes_reading _, Handler.writes_reading _,
    Handler.writes_reading _, Handler.writes_changing written_setSpeed,
    Handler.writes_changing written_setPosition, List.forall_mem_nil _⟩

/-- A call of one of the server's handlers writes, or leaves the world as it was. -/
theorem World.written_of_call {w after : World} (h : Registry.standard.Call w after) :
    after = w ∨ w.Written after := by
  obtain ⟨hs, hb, request⟩ := h
  rcases List.mem_cons.1 hs with rfl | hs
  · exact Person.writes_surface _ hb request w
  · obtain rfl := List.mem_singleton.1 hs
    exact Clock.writes_surface _ hb request w

/-- What holds of a world and itself, of three worlds in a row, and of a world and what a set makes of it, holds
along any number of calls. -/
theorem World.of_calls {R : World → World → Prop} (hrefl : ∀ w, R w w)
    (htrans : ∀ {w between after}, R w between → R between after → R w after)
    (hwritten : ∀ {w after}, w.Written after → R w after) {w after : World}
    (h : Registry.standard.Calls w after) : R w after := by
  induction h with
  | refl => exact hrefl w
  | tail _ hcall ih =>
    rcases written_of_call hcall with rfl | hchange
    · exact ih
    · exact htrans ih (hwritten hchange)

end PedestrianControl
