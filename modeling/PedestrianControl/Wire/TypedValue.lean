import PedestrianControl.Geometry.Vector

/-!
# Typed values

The values that commands and replies carry. Each has a data type, whose byte stands in front of the value
on the wire; a compound holds further typed values to any depth.
-/

namespace PedestrianControl

/-- The data types of values. -/
inductive DataType
  | pos2d
  | pos3d
  | polygon
  | ubyte
  | byte
  | integer
  | double
  | string
  | stringList
  | compound
  | color
deriving DecidableEq, Inhabited, Repr

namespace DataType

/-- The byte that stands for a data type. -/
def code : DataType → UInt8
  | pos2d => 0x01
  | pos3d => 0x03
  | polygon => 0x06
  | ubyte => 0x07
  | byte => 0x08
  | integer => 0x09
  | double => 0x0B
  | string => 0x0C
  | stringList => 0x0E
  | compound => 0x0F
  | color => 0x11

/-- The name of a data type. -/
def name : DataType → String
  | pos2d => "Pos2D"
  | pos3d => "Pos3D"
  | polygon => "Polygon"
  | ubyte => "UByte"
  | byte => "Byte"
  | integer => "Integer"
  | double => "Double"
  | string => "String"
  | stringList => "StringList"
  | compound => "Compound"
  | color => "Color"

/-- Every data type once. -/
def all : List DataType :=
  [pos2d, pos3d, polygon, ubyte, byte, integer, double, string, stringList, compound, color]

/-- The data type that a byte stands for. -/
def ofCode? (b : UInt8) : Option DataType := all.find? fun t => t.code == b

/-- Reading the byte of a data type gives the data type. -/
@[simp] theorem ofCode?_code (t : DataType) : ofCode? t.code = some t := by
  cases t <;> decide

/-- Only its own byte stands for a data type. -/
theorem code_of_ofCode? {b : UInt8} {t : DataType} (h : ofCode? b = some t) : t.code = b := by
  simpa using List.find?_some h

end DataType

/-- A colour with its opacity. -/
structure Color where
  red : UInt8
  green : UInt8
  blue : UInt8
  alpha : UInt8
deriving DecidableEq, Inhabited, Repr

/-- A value of one of the data types. -/
inductive TypedValue
  | pos2d (point : Vec2)
  | pos3d (point : Vec3)
  /-- On the wire at most 255 points fit. -/
  | polygon (points : List Vec2)
  | ubyte (value : UInt8)
  | byte (value : Int8)
  | integer (value : Int32)
  | double (value : Double)
  | string (text : String)
  | stringList (texts : List String)
  | compound (items : List TypedValue)
  | color (value : Color)
deriving Inhabited

namespace TypedValue

/-- The data type of a value. -/
def dataType : TypedValue → DataType
  | pos2d _ => .pos2d
  | pos3d _ => .pos3d
  | polygon _ => .polygon
  | ubyte _ => .ubyte
  | byte _ => .byte
  | integer _ => .integer
  | double _ => .double
  | string _ => .string
  | stringList _ => .stringList
  | compound _ => .compound
  | color _ => .color

/-- The number in a double value. -/
def asDouble? : TypedValue → Option Double
  | double d => some d
  | _ => none

/-- The point in a two-dimensional position. -/
def asPos2d? : TypedValue → Option Vec2
  | pos2d p => some p
  | _ => none

/-- Whether two lists of points agree as numbers. -/
def samePoints : List Vec2 → List Vec2 → Bool
  | [], [] => true
  | p :: ps, q :: qs => p.same q && samePoints ps qs
  | _, _ => false

mutual

/-- Whether two values agree, doubles as numbers: the zeros agree, a NaN agrees with nothing. -/
def same : TypedValue → TypedValue → Bool
  | pos2d a, pos2d b => a.same b
  | pos3d a, pos3d b => a.same b
  | polygon a, polygon b => samePoints a b
  | ubyte a, ubyte b => a == b
  | byte a, byte b => a == b
  | integer a, integer b => a == b
  | double a, double b => a.same b
  | string a, string b => a == b
  | stringList a, stringList b => a == b
  | compound a, compound b => sameItems a b
  | color a, color b => a == b
  | _, _ => false

/-- Whether two lists of values agree, doubles as numbers. -/
def sameItems : List TypedValue → List TypedValue → Bool
  | [], [] => true
  | a :: as, b :: bs => a.same b && sameItems as bs
  | _, _ => false

end

end TypedValue

end PedestrianControl
