import PedestrianControl.Proofs.Api.Surface
import PedestrianControl.Proofs.Wire.Size

/-!
# How much a handler has to tell

A handler answers with a value or with an error's text. Either is bounded by the room of the request: by the
element it names, the number to set, and the crowd, whose identifiers may all be asked for
(`World.room`, `ValueRequest.room`). `Surface.AnswersWithin` says so of all that is bound on a surface, and
what is not bound is refused in few words.
-/

namespace PedestrianControl

open Text (hexByte ToldWithin)

/-- Bytes that are enough for what is told of a variable of an element: its value, or an error. -/
def World.room (w : World) (element : String) : Nat :=
  96 + element.utf8ByteSize + 15 * w.crowd.size

/-- The same for a request. An error may quote the number to set. -/
def ValueRequest.room (r : ValueRequest) (w : World) : Nat :=
  w.room r.element + ((r.value.bind TypedValue.asDouble?).map fun d => d.text.utf8ByteSize).getD 0

namespace HandlerError

/-- How long the error of a missing element is. -/
theorem size_elementNotFound (element : String) :
    (elementNotFound element).message.utf8ByteSize = element.utf8ByteSize + 20 :=
  Text.size_within "element '" element "' not found"

/-- How long the error of an invalid value is. -/
theorem size_invalidValue (reason : String) :
    (invalidValue reason).message.utf8ByteSize = reason.utf8ByteSize + 15 :=
  Text.size_behind "invalid value: " reason

end HandlerError

/-- Only a double has the value of a double. -/
theorem TypedValue.eq_double_of_asDouble? {v : TypedValue} {d : Double} (h : v.asDouble? = some d) :
    v = .double d := by
  cases v with
  | double => exact congrArg _ (Option.some.inj h)
  | _ => cases h

/-- A value of the type of doubles is a double. -/
theorem TypedValue.exists_double_of_dataType {v : TypedValue} (h : v.dataType = .double) :
    ∃ d, v = .double d := by
  cases v with
  | double d => exact ⟨d, rfl⟩
  | _ => cases h

namespace ValueRequest

variable (r : ValueRequest) (w : World)

/-- A reason of at most 81 bytes is told within the room of any request. -/
theorem toldWithin_invalidValue {α : Type} {reason : String} (h : reason.utf8ByteSize ≤ 81) :
    ToldWithin HandlerError.message (r.room w) (.error (.invalidValue reason) : Except _ α) := by
  refine .error ?_
  rw [HandlerError.size_invalidValue, room, World.room]
  omega

/-- An error may quote the number to set. -/
theorem toldWithin_invalidValue_text {α : Type} {d : Double} (hd : r.value = some (.double d))
    {before : String} (h : before.utf8ByteSize ≤ 81) :
    ToldWithin HandlerError.message (r.room w)
      (.error (.invalidValue (before ++ d.text)) : Except _ α) := by
  refine .error ?_
  rw [HandlerError.size_invalidValue, String.utf8ByteSize_append, room, World.room, hd]
  show _ ≤ _ + d.text.utf8ByteSize
  omega

/-- That a value is required is told within the room of the request. -/
theorem toldWithin_required : ToldWithin HandlerError.message (r.room w) r.required := by
  rw [required]
  split
  · exact .ok _
  · exact r.toldWithin_invalidValue w (by decide)

/-- What is required is the value of the request. -/
theorem value_of_required {r : ValueRequest} {v : TypedValue} (h : r.required = .ok v) :
    r.value = some v := by
  rw [required] at h
  split at h
  · rename_i hvalue
    cases h
    exact hvalue
  · cases h

end ValueRequest

/-! ## Handlers and surfaces -/

/-- A handler that tells no more than there is room for. -/
structure Handler.AnswersWithin (handler : Handler World) : Prop where
  error : ∀ r w, ToldWithin HandlerError.message (r.room w) (handler r w).1
  value : ∀ r w v, (handler r w).1 = .ok (some v) → (Output.typed v).bytes.length ≤ r.room w

/-- A handler that only tells something answers within the room as soon as its errors and its values do. -/
theorem Handler.answersWithin_reading {read : ValueRequest → World → Except HandlerError TypedValue}
    (herror : ∀ r w, ToldWithin HandlerError.message (r.room w) (read r w))
    (hvalue : ∀ r w v, read r w = .ok v → (Output.typed v).bytes.length ≤ r.room w) :
    (reading read).AnswersWithin where
  error r w := (herror r w).map some
  value r w v hv := by
    refine hvalue r w v ?_
    cases hread : read r w with
    | error e =>
      rw [reading, hread] at hv
      cases hv
    | ok found =>
      rw [reading, hread] at hv
      cases hv
      rfl

/-- A handler that changes the state by a function gives no value, and so only the errors of the function count. -/
theorem Handler.answersWithin_changing {change : ValueRequest → World → Except HandlerError World}
    (h : ∀ r w, ToldWithin HandlerError.message (r.room w) (change r w)) :
    (changing change).AnswersWithin where
  error r w e he := by
    refine h r w e ?_
    cases hchange : change r w with
    | error found =>
      simp only [changing, hchange] at he
      cases he
      rfl
    | ok after =>
      simp only [changing, hchange] at he
      cases he
  value r w v hv := by
    cases hchange : change r w with
    | error found =>
      simp only [changing, hchange] at hv
      cases hv
    | ok after =>
      simp only [changing, hchange] at hv
      cases hv

/-- A surface whose handlers tell no more than there is room for, and whose names are short. -/
structure Surface.AnswersWithin (s : Surface World) : Prop where
  handlers : ∀ b ∈ s.bindings, b.handler.AnswersWithin
  name : s.name.utf8ByteSize ≤ 10
  variableName : ∀ var name, s.variableName? var = some name → name.utf8ByteSize ≤ 19

namespace Surface.AnswersWithin

variable {s : Surface World} {w : World}

/-- That a variable has no handler is told in at most 96 bytes. -/
theorem size_unbound (h : s.AnswersWithin) (o : Opcode) (var : UInt8) :
    (s.unbound o var).message.utf8ByteSize ≤ 96 := by
  have hname : ((s.variableName? var).getD "unknown").utf8ByteSize ≤ 19 := by
    cases hvar : s.variableName? var with
    | none => exact (by decide : "unknown".utf8ByteSize ≤ 19)
    | some name => exact h.variableName var name hvar
  have hvariable : " variable ".utf8ByteSize = 10 := rfl
  have hopen : " (".utf8ByteSize = 2 := rfl
  have hcommand : ") is not implemented for command ".utf8ByteSize = 33 := rfl
  have hsurface := h.name
  show (s.name ++ " variable " ++ hexByte var ++ " (" ++ (s.variableName? var).getD "unknown" ++
    ") is not implemented for command " ++ hexByte o.code).utf8ByteSize ≤ 96
  simp only [String.utf8ByteSize_append, Text.size_hexByte]
  omega

/-- A call answers within the room of its request: its error, and its value if there is one. -/
theorem call (h : s.AnswersWithin) (o : Opcode) (r : ValueRequest) (w : World) :
    ToldWithin HandlerError.message (r.room w) (s.call o r w).1 ∧
      ∀ v, (s.call o r w).1 = .ok (some v) → (Output.typed v).bytes.length ≤ r.room w := by
  rw [Surface.call]
  cases hhandler : s.handler? o r.var with
  | none =>
    refine ⟨.error (Nat.le_trans (h.size_unbound o r.var) ?_), fun v hv => ?_⟩
    · rw [ValueRequest.room, World.room]
      omega
    · cases hv
  | some handler =>
    obtain ⟨b, hb, -, rfl⟩ := exists_of_handler? hhandler
    exact ⟨(h.handlers b hb).error r w, (h.handlers b hb).value r w⟩

/-- That a handler gave no value is told within the room of any element. -/
theorem size_noValue (var : UInt8) (w : World) (element : String) :
    (noValue var).message.utf8ByteSize ≤ w.room element := by
  have hsize := Text.size_within "handler for variable " (hexByte var) " returned no value"
  rw [Text.size_hexByte] at hsize
  have hle : (noValue var).message.utf8ByteSize ≤ 96 := Nat.le_trans (Nat.le_of_eq hsize) (by decide)
  rw [World.room]
  omega

end Surface.AnswersWithin

/-! ## The registry of the server -/

/-- A handler that tells something of the whole world. -/
theorem Clock.answersWithin_telling {tell : World → TypedValue} {n : Nat}
    (h : ∀ w, (Output.typed (tell w)).bytes.length = n) (hn : n ≤ 96) :
    (telling tell).AnswersWithin := by
  refine Handler.answersWithin_reading (fun _ w => .ok (tell w)) fun r w v hv => ?_
  cases hv
  rw [h, ValueRequest.room, World.room]
  omega

/-- The handler for the length of a step answers within the room. -/
theorem Clock.answersWithin_setDeltaT : (Handler.changing setDeltaT).AnswersWithin := by
  refine Handler.answersWithin_changing fun r w => ?_
  refine (r.toldWithin_required w).bind fun v hv => ?_
  have hvalue := ValueRequest.value_of_required hv
  split
  · exact r.toldWithin_invalidValue w (by decide)
  · rename_i seconds hseconds
    split
    · exact .ok _
    · obtain rfl := TypedValue.eq_double_of_asDouble? hseconds
      exact r.toldWithin_invalidValue_text w hvalue
        (by decide : "DELTA_T must be positive, got ".utf8ByteSize ≤ 81)

/-- The clock's surface answers within the room, handler by handler. -/
theorem Clock.answersWithin_surface : surface.AnswersWithin where
  handlers := by
    simp only [surface, List.forall_mem_cons]
    exact ⟨answersWithin_telling (fun _ => Output.length_typed_double _) (by decide),
      answersWithin_telling (fun _ => Output.length_typed_double _) (by decide),
      answersWithin_telling (fun _ => Output.length_typed_integer _) (by decide),
      answersWithin_setDeltaT, List.forall_mem_nil _⟩
  name := by decide
  variableName := by
    intro var name hname
    obtain ⟨v, -, rfl⟩ := Option.map_eq_some_iff.1 hname
    cases v <;> decide

namespace Person

/-- That nobody has a name is told within the room, since the room grows with the name. -/
theorem toldWithin_named (r : ValueRequest) (w : World) :
    ToldWithin HandlerError.message (r.room w) (named w r.element) := by
  rw [named]
  split
  · exact .ok _
  · refine .error ?_
    rw [HandlerError.size_elementNotFound, ValueRequest.room, World.room]
    omega

/-- A handler that tells something of the named pedestrian. -/
theorem answersWithin_telling {tell : Pedestrian → TypedValue} {n : Nat}
    (h : ∀ p, (Output.typed (tell p)).bytes.length = n) (hn : n ≤ 96) :
    (telling tell).AnswersWithin := by
  refine Handler.answersWithin_reading (fun r w => (toldWithin_named r w).map tell) fun r w v hv => ?_
  cases hnamed : named w r.element with
  | error e =>
    rw [hnamed] at hv
    cases hv
  | ok p =>
    rw [hnamed] at hv
    cases hv
    rw [h, ValueRequest.room, World.room]
    omega

/-- Every identifier is written with at most eleven characters, and each has a length of its own. -/
theorem answersWithin_ids :
    (Handler.reading fun _ w => .ok (.stringList (ids w))).AnswersWithin := by
  refine Handler.answersWithin_reading (fun _ w => .ok _) fun r w v hv => ?_
  cases hv
  have hids : ∀ id ∈ ids w, id.utf8ByteSize ≤ 11 := by
    intro id hid
    obtain ⟨p, -, rfl⟩ := List.mem_map.1 hid
    exact Text.size_toString_int32_le p.id
  have hlength : (ids w).length = w.crowd.size := List.length_map _
  have htyped := Output.length_typed_stringList_le hids
  rw [hlength] at htyped
  rw [ValueRequest.room, World.room]
  omega

/-- That a value has another type than the expected one is told within the room. -/
theorem toldWithin_expect (r : ValueRequest) (w : World) (t : DataType) :
    ToldWithin HandlerError.message (r.room w) (expect r t) := by
  refine (r.toldWithin_required w).bind fun v _ => ?_
  split
  · exact .ok v
  · have hvariable : "variable ".utf8ByteSize = 9 := rfl
    have hexpects : " expects data type ".utf8ByteSize = 19 := rfl
    have hgot : ", got ".utf8ByteSize = 6 := rfl
    refine r.toldWithin_invalidValue w ?_
    show ("variable " ++ hexByte r.var ++ " expects data type " ++ hexByte t.code ++ ", got " ++
      hexByte v.dataType.code).utf8ByteSize ≤ 81
    simp only [String.utf8ByteSize_append, Text.size_hexByte]
    omega

/-- What passes is the value of the request, and it has the expected type. -/
theorem value_of_expect {r : ValueRequest} {t : DataType} {v : TypedValue} (h : expect r t = .ok v) :
    r.value = some v ∧ v.dataType = t := by
  rw [expect] at h
  cases hrequired : r.required with
  | error e =>
    rw [hrequired] at h
    cases h
  | ok found =>
    rw [hrequired] at h
    replace h : (if found.dataType = t then .ok found else .error _) = (.ok v : Except HandlerError _) := h
    split at h
    · rename_i htype
      cases h
      exact ⟨ValueRequest.value_of_required hrequired, htype⟩
    · cases h

/-- A change of somebody answers within the room, since it fails only for the name. -/
theorem toldWithin_changeNamed (r : ValueRequest) (w : World) {f : Pedestrian → Pedestrian}
    (keeps : ∀ p, (f p).id = p.id) :
    ToldWithin HandlerError.message (r.room w) (changeNamed w r.element f keeps) :=
  (toldWithin_named r w).bind fun _ _ => .ok _

/-- The handler for speeds answers within the room. -/
theorem answersWithin_setSpeed : (Handler.changing setSpeed).AnswersWithin := by
  refine Handler.answersWithin_changing fun r w => ?_
  refine (toldWithin_expect r w .double).bind fun v hv => ?_
  obtain ⟨hvalue, htype⟩ := value_of_expect hv
  obtain ⟨d, rfl⟩ := TypedValue.exists_double_of_dataType htype
  dsimp only
  split
  · exact toldWithin_changeNamed r w _
  · exact r.toldWithin_invalidValue_text w hvalue
      (by decide : "speed must be non-negative, got ".utf8ByteSize ≤ 81)

/-- The handler for positions answers within the room. -/
theorem answersWithin_setPosition : (Handler.changing setPosition).AnswersWithin :=
  Handler.answersWithin_changing fun r w =>
    (toldWithin_expect r w .pos2d).bind fun _ _ => toldWithin_changeNamed r w _

/-- The surface of pedestrians answers within the room, handler by handler. -/
theorem answersWithin_surface : surface.AnswersWithin where
  handlers := by
    simp only [surface, List.forall_mem_cons, getter, setter]
    exact ⟨answersWithin_ids,
      Clock.answersWithin_telling (fun _ => Output.length_typed_integer _) (by decide),
      answersWithin_telling (fun _ => Output.length_typed_double _) (by decide),
      answersWithin_telling (fun _ => Output.length_typed_pos2d _) (by decide),
      answersWithin_telling (fun _ => Output.length_typed_pos3d _) (by decide),
      answersWithin_telling (fun _ => Output.length_typed_double _) (by decide),
      answersWithin_telling (fun _ => Output.length_typed_double _) (by decide),
      answersWithin_telling (fun _ => Output.length_typed_double _) (by decide),
      answersWithin_telling (fun _ => Output.length_typed_string _) (by decide),
      answersWithin_telling (fun _ => Output.length_typed_string _) (by decide),
      answersWithin_setSpeed, answersWithin_setPosition, List.forall_mem_nil _⟩
  name := by decide
  variableName := by
    intro var name hname
    obtain ⟨v, -, rfl⟩ := Option.map_eq_some_iff.1 hname
    cases v <;> decide

end Person

/-- Both surfaces of the server tell no more than there is room for. -/
theorem Registry.answersWithin_standard : ∀ s ∈ Registry.standard.surfaces, s.AnswersWithin := by
  simp only [standard, List.forall_mem_cons]
  exact ⟨Person.answersWithin_surface, Clock.answersWithin_surface, List.forall_mem_nil _⟩

end PedestrianControl
