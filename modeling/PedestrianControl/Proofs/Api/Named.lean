import PedestrianControl.Proofs.Api.Dispatch
import PedestrianControl.Proofs.Api.Polling
import PedestrianControl.Proofs.World.Lookup

/-!
# Asking for a pedestrian by name

Most variables of the person surface are told of one pedestrian, the one whose identifier the element is a
spelling of. Whatever the variable, it is told if there is such a pedestrian (`Person.gives_of_named`) and
refused if there is none (`Person.result_of_unnamed`).
-/

namespace PedestrianControl

namespace Registry

variable {s : Surface World} {o : Opcode} {var : UInt8} {element : String} {w : World}
  {read : ValueRequest → World → Except HandlerError TypedValue}

/-- A get at the server whose handler comes to a value gives the value. -/
theorem gives_of_reading (hs : s ∈ standard.surfaces) (hb : ⟨o, var, .reading read⟩ ∈ s.bindings)
    {v : TypedValue} (h : read ⟨var, element, none⟩ w = .ok v) :
    (standard.dispatch (.get o var element) w).1.Gives v := by
  rw [dispatch_get_of_reading build_standard hs hb, h]
  exact ⟨rfl, rfl⟩

/-- A get at the server whose handler fails is refused with the result of the error. -/
theorem result_of_reading (hs : s ∈ standard.surfaces) (hb : ⟨o, var, .reading read⟩ ∈ s.bindings)
    {e : HandlerError} (h : read ⟨var, element, none⟩ w = .error e) :
    (standard.dispatch (.get o var element) w).1.status.result = e.result := by
  rw [dispatch_get_of_reading build_standard hs hb, h]
  rfl

/-- A set at the server whose handler comes to a new world is granted. -/
theorem result_of_changing {change : ValueRequest → World → Except HandlerError World} {v : TypedValue}
    {after : World} (hs : s ∈ standard.surfaces) (hb : ⟨o, var, .changing change⟩ ∈ s.bindings)
    (h : change ⟨var, element, some v⟩ w = .ok after) :
    (standard.dispatch (.set o var element v) w).1.status.result = .ok := by
  rw [dispatch_set_of_changing build_standard hs hb, h]
  rfl

end Registry

namespace Person

variable {w : World} {element : String} {p : Pedestrian}

/-- An element names the member whose identifier it is a spelling of. -/
theorem named?_eq_some_iff :
    named? w element = some p ↔ p ∈ w.crowd.members ∧ Decimal.int32? element.toList = some p.id := by
  rw [named?, Option.bind_eq_some_iff]
  simp only [Crowd.find?_eq_some_iff]
  constructor
  · rintro ⟨id, hid, hp, rfl⟩
    exact ⟨hp, hid⟩
  · rintro ⟨hp, hid⟩
    exact ⟨p.id, hid, hp, rfl⟩

/-! ## Variables of single pedestrians -/

/-- What the variables of single pedestrians are told as. -/
def tells? : PersonVariable → Option (Pedestrian → TypedValue)
  | .pos2d => some fun p => .pos2d p.position
  | .pos3d => some fun p => .pos3d ⟨p.position.x, p.position.y, 0⟩
  | .speed => some fun p => .double p.velocity.length
  | .angle => some fun p => .double p.angle
  | .length => some fun p => .double (diameter p)
  | .width => some fun p => .double (diameter p)
  | .type => some fun _ => .string "pedestrian"
  | .roadId => some fun _ => .string "road000"
  | _ => none

/-- What a variable tells of somebody has a getter on the surface. -/
theorem getter_mem_of_tells? {v : PersonVariable} {tell : Pedestrian → TypedValue} (h : tells? v = some tell) :
    getter v (telling tell) ∈ surface.bindings := by
  cases v with
  | pos2d | pos3d | speed | angle | length | width | type | roadId =>
    cases h
    simp only [surface, List.mem_cons, true_or, or_true]
  | _ => cases h

section Telling

variable {v : PersonVariable} {tell : Pedestrian → TypedValue} (htell : tells? v = some tell)

include htell

/-- A get of somebody who is there gives what the variable tells of them. -/
theorem gives_of_named (h : named? w element = some p) :
    (Registry.standard.dispatch (.get .getPerson v.code element) w).1.Gives (tell p) := by
  refine Registry.gives_of_reading List.mem_cons_self (getter_mem_of_tells? htell) ?_
  rw [named, h]
  rfl

/-- A get of somebody who is not there is answered with an error. -/
theorem result_of_unnamed (h : named? w element = none) :
    (Registry.standard.dispatch (.get .getPerson v.code element) w).1.status.result = .error := by
  refine Registry.result_of_reading (e := .elementNotFound element) List.mem_cons_self
    (getter_mem_of_tells? htell) ?_
  rw [named, h]
  rfl

end Telling

end Person

end PedestrianControl
