import PedestrianControl.Wire.Output
import PedestrianControl.Wire.TypedValue

/-!
# Typed values on the wire

A typed value is the byte of its data type and then its body. Points are their coordinates in order; a
polygon is a number of points in one byte and the points; a list of texts and a compound are a signed
number and the elements, those of a compound being typed values in turn.

Reading follows the nesting of compounds. Every level takes at least the byte of a data type, so a bound of as
many levels as there are bytes is never reached (`Decoder.typed`).
-/

namespace PedestrianControl

/-! ## Reading -/

namespace Decoder

/-- The byte of a data type. -/
def dataType : Decoder DataType := do
  let code ← byte
  match DataType.ofCode? code with
  | some t => return t
  | none => throw (.unknownDataType code)

/-- A point in the plane. -/
def vec2 : Decoder Vec2 := do
  let x ← double
  let y ← double
  return ⟨x, y⟩

/-- A point in space. -/
def vec3 : Decoder Vec3 := do
  let x ← double
  let y ← double
  let z ← double
  return ⟨x, y, z⟩

/-- A colour. -/
def color : Decoder Color := do
  let red ← byte
  let green ← byte
  let blue ← byte
  let alpha ← byte
  return ⟨red, green, blue, alpha⟩

/-- The body of a value of the given data type, `item` reading the elements of a compound. -/
def body (item : Decoder TypedValue) : DataType → Decoder TypedValue
  | .pos2d => do return .pos2d (← vec2)
  | .pos3d => do return .pos3d (← vec3)
  | .polygon => do
    let count ← byte
    return .polygon (← many count.toNat vec2)
  | .ubyte => do return .ubyte (← byte)
  | .byte => do return .byte (← int8)
  | .integer => do return .integer (← int32)
  | .double => do return .double (← double)
  | .string => do return .string (← string)
  | .stringList => do return .stringList (← list string)
  | .compound => do return .compound (← list item)
  | .color => do return .color (← color)

/-- A typed value whose compounds are nested in at most so many levels. With no level left there must be no
byte left either, for `typed` allows as many levels as there are bytes: the nesting is bounded by the input alone. How
much of its stack a thread needs for that is not part of the model. -/
def typedWithin : Nat → Decoder TypedValue
  | 0 => throw (.underflow 1 0)
  | levels + 1 => do
    let t ← dataType
    body (typedWithin levels) t

/-- A typed value. -/
def typed : Decoder TypedValue := fun bytes => typedWithin bytes.length bytes

/-- A value whose data type is known already. -/
def value (t : DataType) : Decoder TypedValue := fun bytes =>
  body (typedWithin bytes.length) t bytes

end Decoder

/-! ## Writing -/

namespace Output

/-- A point in the plane. -/
def vec2 (v : Vec2) : Output := double v.x ++ double v.y

/-- A point in space. -/
def vec3 (v : Vec3) : Output := double v.x ++ double v.y ++ double v.z

/-- A colour. -/
def color (c : Color) : Output := of [c.red, c.green, c.blue, c.alpha]

mutual

/-- The body of a value, without the byte of its data type. -/
def value : TypedValue → Output
  | .pos2d p => vec2 p
  | .pos3d p => vec3 p
  | .polygon points => shortCount points.length .tooManyPoints ++ each vec2 points
  | .ubyte n => byte n
  | .byte n => int8 n
  | .integer n => int32 n
  | .double d => double d
  | .string s => string s
  | .stringList texts => list string texts
  | .compound items => count items.length ++ typedItems items
  | .color c => color c

/-- Typed values one after the other. -/
def typedItems : List TypedValue → Output
  | [] => of []
  | v :: rest => byte v.dataType.code ++ value v ++ typedItems rest

end

/-- A typed value: the byte of its data type and its body. -/
def typed (v : TypedValue) : Output := byte v.dataType.code ++ value v

/-- The elements of a compound are typed values one after the other. -/
theorem typedItems_eq_each (items : List TypedValue) : typedItems items = each typed items := by
  induction items with
  | nil => rw [typedItems, each]
  | cons v rest ih => rw [typedItems, each, ih, typed]

end Output

end PedestrianControl
