import PedestrianControl.Api.Surface
import PedestrianControl.World.Basic

/-!
# The person surface

The variables of single pedestrians, who are named by their identifiers in decimal. The list and the number
of pedestrians ignore the name.
-/

namespace PedestrianControl

open Text (hexByte)

/-- The variables that persons are known to have. -/
inductive PersonVariable
  | idList
  | count
  | pos3d
  | speed
  | pos2d
  | angle
  | length
  | color
  | minGap
  | width
  | type
  | roadId
  | edgePos
  | waitingTime
  | nextEdge
  | remainingStages
  | vehicle
deriving DecidableEq, Inhabited, Repr

namespace PersonVariable

/-- Every variable once. -/
def all : List PersonVariable :=
  [idList, count, pos3d, speed, pos2d, angle, length, color, minGap, width, type, roadId, edgePos,
    waitingTime, nextEdge, remainingStages, vehicle]

/-- The byte that stands for a variable. -/
def code : PersonVariable → UInt8
  | idList => 0x00
  | count => 0x01
  | pos3d => 0x39
  | speed => 0x40
  | pos2d => 0x42
  | angle => 0x43
  | length => 0x44
  | color => 0x45
  | minGap => 0x4C
  | width => 0x4D
  | type => 0x4F
  | roadId => 0x50
  | edgePos => 0x56
  | waitingTime => 0x7A
  | nextEdge => 0xC1
  | remainingStages => 0xC2
  | vehicle => 0xC3

/-- The name of a variable. -/
def name : PersonVariable → String
  | idList => "ID_LIST"
  | count => "COUNT"
  | pos3d => "POS_3D"
  | speed => "SPEED"
  | pos2d => "POS_2D"
  | angle => "ANGLE"
  | length => "LENGTH"
  | color => "COLOR"
  | minGap => "MIN_GAP"
  | width => "WIDTH"
  | type => "TYPE"
  | roadId => "ROAD_ID"
  | edgePos => "EDGE_POS"
  | waitingTime => "WAITING_TIME"
  | nextEdge => "NEXT_EDGE"
  | remainingStages => "REMAINING_STAGES"
  | vehicle => "VEHICLE"

/-- The data type of a variable's values. -/
def dataType : PersonVariable → DataType
  | idList => .stringList
  | count | remainingStages => .integer
  | pos3d => .pos3d
  | pos2d => .pos2d
  | color => .color
  | type | roadId | nextEdge | vehicle => .string
  | speed | angle | length | minGap | width | edgePos | waitingTime => .double

/-- The variable that a byte stands for. -/
def ofCode? (b : UInt8) : Option PersonVariable := all.find? fun v => v.code == b

/-- The variable of a name, in capitals. -/
def ofName? (s : String) : Option PersonVariable := all.find? fun v => v.name == s

/-- Reading the byte of a variable gives the variable. -/
@[simp] theorem ofCode?_code (v : PersonVariable) : ofCode? v.code = some v := by
  cases v <;> decide

end PersonVariable

namespace Person

/-- The opcodes of the surface. -/
def opcodes : SurfaceOpcodes where
  get := .getPerson
  set := .setPerson
  subscribe := .subscribePerson
  getResponse := .getPersonResponse
  subscribeResponse := .subscribePersonResponse

/-- The pedestrian that an element names. -/
def named? (w : World) (element : String) : Option Pedestrian :=
  (Decimal.int32? element.toList).bind w.crowd.find?

/-- The pedestrian that an element names, or the error that there is none. -/
def named (w : World) (element : String) : Except HandlerError Pedestrian :=
  match named? w element with
  | some p => .ok p
  | none => .error (.elementNotFound element)

/-- The value to set, if it has the expected data type. -/
def expect (r : ValueRequest) (t : DataType) : Except HandlerError TypedValue := do
  let v ← r.required
  if v.dataType = t then .ok v
  else
    .error (.invalidValue
      s!"variable {hexByte r.var} expects data type {hexByte t.code}, got {hexByte v.dataType.code}")

/-! ## Getting -/

/-- The identifiers of everybody, ascending. -/
def ids (w : World) : List String := w.crowd.members.map fun p => toString p.id.toInt

/-- A handler that tells something of the named pedestrian. -/
def telling (tell : Pedestrian → TypedValue) : Handler World :=
  .reading fun r w => tell <$> named w r.element

/-- The diameter of a pedestrian. -/
def diameter (p : Pedestrian) : Double := p.radius * ⟨0x4000000000000000⟩

/-! ## Setting -/

/-- The world with the named pedestrian changed, or the error that there is none. -/
def changeNamed (w : World) (element : String) (f : Pedestrian → Pedestrian)
    (keeps : ∀ p, (f p).id = p.id) : Except HandlerError World := do
  let p ← named w element
  .ok { w with crowd := w.crowd.modify p.id f keeps }

/-- Sets the speed of the named pedestrian. -/
def setSpeed (r : ValueRequest) (w : World) : Except HandlerError World := do
  let v ← expect r .double
  let speed := v.asDouble?.getD 0
  if speed.isAdmissibleSpeed then changeNamed w r.element ({ · with speed }) fun _ => rfl
  else .error (.invalidValue s!"speed must be non-negative, got {speed.text}")

/-- Sets the position of the named pedestrian. -/
def setPosition (r : ValueRequest) (w : World) : Except HandlerError World := do
  let v ← expect r .pos2d
  let position := v.asPos2d?.getD 0
  changeNamed w r.element ({ · with position }) fun _ => rfl

/-! ## The table -/

/-- A get bound to a variable. -/
def getter (v : PersonVariable) (handler : Handler World) : Binding World :=
  ⟨opcodes.get, v.code, handler⟩

/-- A set bound to a variable. -/
def setter (v : PersonVariable) (change : ValueRequest → World → Except HandlerError World) :
    Binding World :=
  ⟨opcodes.set, v.code, .changing change⟩

/-- The person surface. -/
def surface : Surface World where
  name := "person"
  opcodes := opcodes
  variableName? := fun b => (PersonVariable.ofCode? b).map (·.name)
  bindings := [
    getter .idList (.reading fun _ w => .ok (.stringList (ids w))),
    getter .count (.reading fun _ w => .ok (.integer (Int32.ofNat w.crowd.size))),
    getter .speed (telling fun p => .double p.velocity.length),
    getter .pos2d (telling fun p => .pos2d p.position),
    getter .pos3d (telling fun p => .pos3d ⟨p.position.x, p.position.y, 0⟩),
    getter .angle (telling fun p => .double p.angle),
    getter .length (telling fun p => .double (diameter p)),
    getter .width (telling fun p => .double (diameter p)),
    getter .type (telling fun _ => .string "pedestrian"),
    getter .roadId (telling fun _ => .string "road000"),
    setter .speed setSpeed,
    setter .pos2d setPosition]

end Person

end PedestrianControl
