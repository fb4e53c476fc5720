import PedestrianControl.Decimal.Positional
import PedestrianControl.Files.IoError
import PedestrianControl.Text.Hexadecimal
import PedestrianControl.Text.Utf8
import PedestrianControl.Wire.ResultCode

/-!
# Errors

The causes for which a connection, a file, a scenario or a configuration is given up. Each is a
constructor that holds what its message names; the wording is in the functions called `message`.
Errors that a command's reply reports and that leave the session running are `HandlerError`s.
-/

namespace PedestrianControl

open Text (hexByte)

/-- What is wrong with the length in front of a frame. -/
inductive FrameFault
  /-- The length leaves no byte for a payload. -/
  | noPayload (length : Int)
  /-- The length is above the limit. -/
  | tooLarge (length : Int) (limit : Nat)
deriving DecidableEq, Inhabited, Repr

/-- The units of a reply, as messages name them. -/
inductive ReplyPart
  | status
  | version
  | value
  | subscription
deriving DecidableEq, Inhabited, Repr

/-- What is wrong inside a payload, or with what should go into one. -/
inductive ProtocolFault
  | negativeStringLength (length : Int)
  | invalidText (fault : Utf8.Fault)
  | negativeListLength (length : Int)
  | tooManyPoints (count : Nat)
  | tooManyVariables (count : Nat)
  | tooManyValues (count : Nat)
  | trailingAfterCommand (bytes : Nat) (opcode : UInt8)
  | trailingAfterPart (bytes : Nat) (part : ReplyPart)
  | responseAsCommand (opcode : UInt8)
  | unknownResult (code : UInt8)
  | notAVersion (opcode : UInt8)
  | notAResponse (opcode : UInt8)
  | shortExtendedLength (length : Int)
  | unitTooLong (declared remaining : Nat)
  | emptyCommand
  | negativeResultCount (count : Int)
  | noExtendedMarker
  | emptyReply
  | requestFailed (opcode : UInt8) (result : ResultCode) (description : String)
  | counterOverflow (steps : Nat)
  | invalidFileName (path : String)
  | unknownPersonVariable (name : String)
deriving DecidableEq, Inhabited, Repr

/-- What is wrong with one line of a scenario. -/
inductive LineFault
  | unknownDirective (word : String)
  | wrongArity (directive : String) (expected found : Nat)
  | invalidField (name text : String)
  | stepLengthNotPositive
  | duplicateId (id : Int)
deriving DecidableEq, Inhabited, Repr

/-- Why a scenario could not be had. -/
inductive ScenarioFault
  /-- The fault of the line with this number, counted from one. -/
  | line (number : Nat) (fault : LineFault)
  | cannotRead (path : String) (error : IoError)
  | invalidFileName (name : String)
  | notSupported (name : String)
deriving DecidableEq, Inhabited, Repr

/-- Why the text of a configuration file is not taken. -/
inductive DocumentFault
  /-- The text is no document of the format; the line where reading stopped, counted from one. -/
  | malformed (line : Nat)
  /-- A field has a value of the wrong kind or out of its range. -/
  | unsuitable (field : String)
deriving DecidableEq, Inhabited, Repr

/-- Why a configuration, or a simulation driver, was refused. -/
inductive ConfigFault
  | document (fault : DocumentFault)
  | cannotRead (path : String) (error : IoError)
  | noConnections
  | stepLengthNotPositive (value : Double)
  | frameTooSmall (limit : Nat)
  | driverAttached
deriving DecidableEq, Inhabited, Repr

/-- The errors that end what they happen to. -/
inductive Error
  | io (error : IoError)
  | connectionClosed
  | frame (fault : FrameFault)
  /-- A read of `needed` bytes where only `available` are left. -/
  | underflow (needed available : Nat)
  | protocol (fault : ProtocolFault)
  | unknownOpcode (code : UInt8)
  | unknownDataType (code : UInt8)
  | contextSubscription (opcode : UInt8)
  | driverStopped
  | scenario (fault : ScenarioFault)
  | config (fault : ConfigFault)
deriving DecidableEq, Inhabited, Repr

/-! ## Wording -/

/-- The wording of a frame fault. -/
def FrameFault.message : FrameFault → String
  | noPayload length => s!"frame length {length} leaves no payload"
  | tooLarge length limit => s!"frame too large: {length} bytes (max {limit})"

/-- The name of a unit of a reply. -/
def ReplyPart.name : ReplyPart → String
  | status => "status response"
  | version => "version payload"
  | value => "value response"
  | subscription => "subscription result"

/-- The wording of a protocol fault. -/
def ProtocolFault.message : ProtocolFault → String
  | negativeStringLength length => s!"negative string length {length}"
  | invalidText fault => s!"string is not UTF-8: {fault.message}"
  | negativeListLength length => s!"negative list length {length}"
  | tooManyPoints count => s!"polygon has {count} points, at most 255 fit the wire format"
  | tooManyVariables count =>
    s!"{count} subscription variables, at most 255 fit the wire format"
  | tooManyValues count => s!"{count} subscribed values, at most 255 fit the wire format"
  | trailingAfterCommand bytes opcode =>
    s!"{bytes} trailing bytes after command {hexByte opcode}"
  | trailingAfterPart bytes part => s!"{bytes} trailing bytes after {part.name}"
  | responseAsCommand opcode => s!"response identifier {hexByte opcode} sent as a command"
  | unknownResult code => s!"unknown result code: {hexByte code}"
  | notAVersion opcode => s!"expected version payload, got {hexByte opcode}"
  | notAResponse opcode => s!"expected a response identifier, got {hexByte opcode}"
  | shortExtendedLength length =>
    s!"extended unit length {length} is shorter than its header"
  | unitTooLong declared remaining =>
    s!"unit declares {declared} bytes but only {remaining} remain in the frame"
  | emptyCommand => "empty command unit"
  | negativeResultCount count => s!"negative subscription count {count}"
  | noExtendedMarker => "subscription result without extended length marker"
  | emptyReply => "empty response frame"
  | requestFailed opcode result description =>
    s!"command {hexByte opcode} failed with {result.name}: {description}"
  | counterOverflow steps => s!"cannot schedule {steps} more steps"
  | invalidFileName path => s!"invalid file name {path}"
  | unknownPersonVariable name => s!"unknown person variable '{name}'"

/-- The wording of a fault in a line. -/
def LineFault.message : LineFault → String
  | unknownDirective word => s!"unknown directive '{word}'"
  | wrongArity directive expected found =>
    s!"'{directive}' takes {expected} values, got {found}"
  | invalidField name text => s!"invalid {name} '{text}'"
  | stepLengthNotPositive => "step_length must be positive"
  | duplicateId id => s!"duplicate pedestrian id {id}"

/-- The wording of a scenario fault. -/
def ScenarioFault.message : ScenarioFault → String
  | line number fault => s!"line {number}: {fault.message}"
  | cannotRead path error => s!"cannot read {path}: {error.text}"
  | invalidFileName name => s!"invalid file name '{name}'"
  | notSupported name => s!"cannot load {name}: scenario loading is not supported"

/-- The wording of a document fault. -/
def DocumentFault.message : DocumentFault → String
  | malformed line => s!"TOML parse error at line {line}"
  | unsuitable field => s!"TOML parse error: unsuitable value for '{field}'"

/-- The wording of a configuration fault. -/
def ConfigFault.message : ConfigFault → String
  | document fault => fault.message
  | cannotRead path error => s!"cannot read {path}: {error.text}"
  | noConnections => "max_connections must be at least 1"
  | stepLengthNotPositive value => s!"step_length must be positive, got {value.text}"
  | frameTooSmall limit => s!"max_frame_size must exceed the length field, got {limit}"
  | driverAttached => "a simulation driver is already attached"

namespace Error

/-- The wording of an error. -/
def message : Error → String
  | io error => s!"IO error: {error.text}"
  | connectionClosed => "Connection closed by peer"
  | frame fault => s!"Frame error: {fault.message}"
  | underflow needed available =>
    s!"Buffer underflow: need {needed} bytes, {available} available"
  | protocol fault => s!"Protocol error: {fault.message}"
  | unknownOpcode code => s!"Unknown command identifier: {hexByte code}"
  | unknownDataType code => s!"Unknown data type: {hexByte code}"
  | contextSubscription opcode => s!"Not implemented: context subscription {hexByte opcode}"
  | driverStopped => "Simulation driver is not running"
  | scenario fault => s!"Scenario error: {fault.message}"
  | config fault => s!"Configuration error: {fault.message}"

/-- The name of an error's kind. -/
def kind : Error → String
  | io _ => "Io"
  | connectionClosed => "ConnectionClosed"
  | frame _ => "Frame"
  | underflow .. => "BufferUnderflow"
  | protocol _ => "Protocol"
  | unknownOpcode _ => "UnknownOpcode"
  | unknownDataType _ => "UnknownDataType"
  | contextSubscription _ => "NotImplemented"
  | driverStopped => "DriverStopped"
  | scenario _ => "Scenario"
  | config _ => "Config"

/-- The peer went away, rather than anything being wrong. -/
def isDisconnect : Error → Bool
  | connectionClosed => true
  | io error => error.isDisconnect
  | _ => false

/-- The peer sent something malformed. -/
def isProtocol : Error → Bool
  | frame _ | underflow .. | protocol _ | unknownOpcode _ | unknownDataType _
  | contextSubscription _ => true
  | _ => false

/-- The peer kept silent for longer than it may. -/
def isTimeout : Error → Bool
  | io error => error.isTimeout
  | _ => false

end Error

end PedestrianControl
