import PedestrianControl.Wire.Command
import PedestrianControl.Wire.TypedValue.Codec

/-!
# Commands on the wire

The content of a command's unit is its opcode and a layout that the opcode's category decides:

* control: one layout for each opcode,
* get: variable, element,
* set: variable, element, typed value,
* subscribe: start and end of the span, element, number of variables in one byte, variables.

The content must end where the layout ends.
-/

namespace PedestrianControl

namespace Decoder

/-- An opcode. -/
def opcode : Decoder Opcode := do
  let code ← byte
  match Opcode.ofCode? code with
  | some o => return o
  | none => throw (.unknownOpcode code)

/-- What follows the opcode of a get. -/
def getLayout (o : Opcode) : Decoder Command := do
  let var ← byte
  let element ← string
  return .get o var element

/-- What follows the opcode of a set. -/
def setLayout (o : Opcode) : Decoder Command := do
  let var ← byte
  let element ← string
  let value ← typed
  return .set o var element value

/-- What follows the opcode of a subscription. -/
def subscribeLayout (o : Opcode) : Decoder Command := do
  let starts ← double
  let ends ← double
  let element ← string
  let count ← byte
  let vars ← many count.toNat byte
  return .subscribe ⟨o, starts, ends, element, vars⟩

/-- What follows an opcode sent as a command. -/
def layout : Opcode → Decoder Command
  | .getVersion => return .getVersion
  | .load => do return .load (← list string)
  | .simStep => do return .simStep (← double)
  | .sendFile => do
    let name ← string
    let content ← string
    return .sendFile name content
  | .close => return .close
  | o =>
    match o.category with
    | .get => getLayout o
    | .set => setLayout o
    | .subscribe => subscribeLayout o
    | .contextSubscribe => throw (.contextSubscription o.code)
    | _ => throw (.protocol (.responseAsCommand o.code))

/-- The content of a command's unit, to its last byte. -/
def commandContent : Decoder Command := do
  let o ← opcode
  let c ← layout o
  finished fun bytes => .trailingAfterCommand bytes o.code
  return c

end Decoder

/-- The command that is the content of a unit. -/
def Command.decode (content : Bytes) : Except Error Command := Decoder.commandContent.run content

namespace Output

/-- What follows the opcode of a command. -/
def commandLayout : Command → Output
  | .getVersion => of []
  | .close => of []
  | .load args => list string args
  | .simStep target => double target
  | .sendFile name content => string name ++ string content
  | .get _ var element => byte var ++ string element
  | .set _ var element value => byte var ++ string element ++ typed value
  | .subscribe s =>
    if s.vars.length ≤ 255 then
      double s.starts ++ double s.ends ++ string s.element ++
        byte s.vars.length.toUInt8 ++ of s.vars
    else fail (.protocol (.tooManyVariables s.vars.length))

/-- The content of a command's unit. -/
def commandContent (c : Command) : Output := byte c.opcode.code ++ commandLayout c

end Output

end PedestrianControl
