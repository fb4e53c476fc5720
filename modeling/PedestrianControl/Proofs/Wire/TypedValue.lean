import PedestrianControl.Proofs.Wire.ReadBack
import PedestrianControl.Wire.TypedValue.Codec

/-!
# Typed values are read back

A typed value can be written exactly if no polygon in it, at any depth, has more points than one byte
counts (`error?_typed_eq_none`), and is then read back as it is (`reads_typed`). The reader bounds
the nesting by the number of bytes at hand; `reads_typedWithin` says that this many levels are enough,
by induction on the value.
-/

namespace PedestrianControl

namespace TypedValue

/-- Induction over the nesting of compounds: a compound may use what holds of its items. -/
@[elab_as_elim]
theorem induction {motive : TypedValue → Prop}
    (leaf : ∀ v, (∀ items, v ≠ .compound items) → motive v)
    (compound : ∀ items, (∀ v ∈ items, motive v) → motive (.compound items)) (v : TypedValue) :
    motive v := by
  by_cases h : ∃ items, v = .compound items
  · obtain ⟨items, rfl⟩ := h
    exact compound items fun v _ => induction leaf compound v
  · exact leaf v fun items he => h ⟨items, he⟩
termination_by sizeOf v

mutual

/-- Every polygon in the value, at any depth, has at most 255 points. -/
def PolygonsFit : TypedValue → Prop
  | polygon points => points.length ≤ 255
  | compound items => AllPolygonsFit items
  | _ => True

/-- Every polygon in any of the values has at most 255 points. -/
def AllPolygonsFit : List TypedValue → Prop
  | [] => True
  | v :: rest => v.PolygonsFit ∧ AllPolygonsFit rest

end

mutual

/-- Looks for a polygon with too many points. -/
def decidePolygonsFit : (v : TypedValue) → Decidable v.PolygonsFit
  | polygon points => inferInstanceAs (Decidable (points.length ≤ 255))
  | compound items => decideAllPolygonsFit items
  | pos2d _ | pos3d _ | ubyte _ | byte _ | integer _ | double _ | string _ | stringList _ | color _ =>
    inferInstanceAs (Decidable True)

/-- Looks for a polygon with too many points in any of the values. -/
def decideAllPolygonsFit : (items : List TypedValue) → Decidable (AllPolygonsFit items)
  | [] => inferInstanceAs (Decidable True)
  | v :: rest =>
    have := v.decidePolygonsFit
    have := decideAllPolygonsFit rest
    inferInstanceAs (Decidable (v.PolygonsFit ∧ AllPolygonsFit rest))

end

instance (v : TypedValue) : Decidable v.PolygonsFit := v.decidePolygonsFit

/-- The polygons of all items fit exactly if those of each do. -/
theorem allPolygonsFit_iff {items : List TypedValue} :
    AllPolygonsFit items ↔ ∀ v ∈ items, v.PolygonsFit := by
  induction items with
  | nil => simp [AllPolygonsFit]
  | cons v rest ih => rw [AllPolygonsFit, ih, List.forall_mem_cons]

end TypedValue

namespace Output

/-- A typed value is the code of its type and then the value. -/
theorem bytes_typed (v : TypedValue) : (typed v).bytes = v.dataType.code :: (value v).bytes := rfl

theorem bytes_typed_ne_nil (v : TypedValue) : (typed v).bytes ≠ [] := by
  rw [bytes_typed]; exact List.cons_ne_nil _ _

/-- Writing a typed value fails as writing the value does. -/
theorem error?_typed (v : TypedValue) : (typed v).error? = (value v).error? := rfl

theorem error?_string (s : String) : (string s).error? = none := rfl

theorem bytes_string_ne_nil (s : String) : (string s).bytes ≠ [] := List.cons_ne_nil _ _

theorem error?_stringList (texts : List String) : (list string texts).error? = none :=
  error?_list_eq_none.2 fun s _ => error?_string s

/-- A count of one byte can be written exactly if it is at most 255. -/
theorem error?_shortCount_eq_none {n : Nat} {fault : Nat → ProtocolFault} :
    (shortCount n fault).error? = none ↔ n ≤ 255 := by
  rw [shortCount]
  by_cases h : n ≤ 255
  · rw [if_pos h]
    exact iff_of_true rfl h
  · rw [if_neg h]
    exact iff_of_false (Option.some_ne_none _) h

/-- Writing a value fails only on a polygon of more points than one byte counts. -/
theorem error?_typed_eq_none {v : TypedValue} : (typed v).error? = none ↔ v.PolygonsFit := by
  induction v using TypedValue.induction with
  | compound items ih =>
    rw [error?_typed, value, error?_append_eq_none, typedItems_eq_each, error?_each_eq_none,
      TypedValue.PolygonsFit, TypedValue.allPolygonsFit_iff]
    constructor
    · exact fun h v hv => (ih v hv).1 (h.2 v hv)
    · exact fun h => ⟨rfl, fun v hv => (ih v hv).2 (h v hv)⟩
  | leaf v hleaf =>
    rw [error?_typed]
    cases v with
    | polygon points =>
      have hpoints : (each vec2 points).error? = none := error?_each_eq_none.2 fun _ _ => rfl
      rw [value, error?_append_eq_none, error?_shortCount_eq_none, TypedValue.PolygonsFit]
      exact and_iff_left hpoints
    | stringList texts => exact iff_of_true (error?_stringList texts) trivial
    | compound items => exact absurd rfl (hleaf items)
    | _ => exact iff_of_true rfl trivial

end Output

namespace Decoder

theorem reads_dataType (t : DataType) : dataType.Reads (.byte t.code) t :=
  reads_coded (by rw [DataType.ofCode?_code])

theorem reads_vec2 (v : Vec2) : vec2.Reads (.vec2 v) v :=
  (reads_double v.x).bind (reads_double v.y).bind_pure

theorem reads_vec3 (v : Vec3) : vec3.Reads (.vec3 v) v := by
  rw [Output.vec3, Output.append_assoc]
  exact (reads_double v.x).bind ((reads_double v.y).bind (reads_double v.z).bind_pure)

theorem reads_color (c : Color) : color.Reads (.color c) c := fun _ _ _ => rfl

theorem reads_stringList (texts : List String) : (list string).Reads (.list .string texts) texts :=
  reads_list (fun s _ => reads_string s) fun s _ => Output.bytes_string_ne_nil s

/-- The body of a value is read back if a compound's items are. -/
theorem reads_body {item : Decoder TypedValue} {v : TypedValue}
    (h : ∀ items, v = .compound items → ∀ w ∈ items, item.Reads (.typed w) w) :
    (body item v.dataType).Reads (.value v) v := by
  cases v with
  | pos2d p => exact (reads_vec2 p).bind_pure
  | pos3d p => exact (reads_vec3 p).bind_pure
  | polygon points =>
    have hpoints : (many points.length vec2).Reads (.each .vec2 points) points :=
      reads_many fun p _ => reads_vec2 p
    exact Reads.bind_shortCount _ (f := fun count => many count vec2 >>= fun ps =>
      pure (TypedValue.polygon ps)) hpoints.bind_pure
  | ubyte n => exact (reads_byte n).bind_pure
  | byte n => exact (reads_int8 n).bind_pure
  | integer n => exact (reads_int32 n).bind_pure
  | double d => exact (reads_double d).bind_pure
  | string s => exact (reads_string s).bind_pure
  | stringList texts => exact (reads_stringList texts).bind_pure
  | compound items =>
    rw [Output.value, Output.typedItems_eq_each]
    exact (reads_list (h items rfl) fun w _ => Output.bytes_typed_ne_nil w).bind_pure
  | color c => exact (reads_color c).bind_pure

/-- As many levels of nesting as there are bytes are enough to read a value back. -/
theorem reads_typedWithin (v : TypedValue) :
    ∀ levels, (Output.typed v).bytes.length ≤ levels → (typedWithin levels).Reads (.typed v) v := by
  induction v using TypedValue.induction with
  | leaf v hleaf =>
    intro levels hlevels
    obtain ⟨below, rfl⟩ := Nat.exists_eq_add_one.2 (Nat.lt_of_lt_of_le (Nat.succ_pos _) hlevels)
    exact (reads_dataType v.dataType).bind (reads_body fun items he => absurd he (hleaf items))
  | compound items ih =>
    intro levels hlevels herr
    obtain ⟨below, rfl⟩ := Nat.exists_eq_add_one.2 (Nat.lt_of_lt_of_le (Nat.succ_pos _) hlevels)
    -- one level less is enough for each item: the compound's own header takes bytes too
    have hitems : (Output.each Output.typed items).error? = none := by
      rw [← Output.typedItems_eq_each]
      exact (Output.error?_append_eq_none.1 herr).2
    have hbelow : (Output.each Output.typed items).bytes.length ≤ below := by
      rw [← Output.typedItems_eq_each]
      have hbytes : (Output.typed (.compound items)).bytes.length
          = 1 + (4 + (Output.typedItems items).bytes.length) := by
        rw [Output.bytes_typed, Output.value, Output.bytes_append rfl, List.length_cons,
          List.length_append, Nat.add_comm]
        rfl
      omega
    refine (reads_dataType .compound).bind (reads_body fun items' he w hw => ?_) herr
    cases he
    exact ih w hw below (Nat.le_trans (Output.length_bytes_le_of_mem hitems hw) hbelow)

/-- A typed value is read back. -/
theorem reads_typed (v : TypedValue) : typed.Reads (.typed v) v := by
  intro herr hlen rest
  refine reads_typedWithin v _ ?_ herr hlen rest
  rw [List.length_append]
  omega

end Decoder

end PedestrianControl
