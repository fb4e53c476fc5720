import PedestrianControl.Wire.Command.Codec
import PedestrianControl.Wire.Response

/-!
# The parts of responses on the wire

The contents of the units that responses are made of. Each must end where its layout ends.

* status: opcode, result, description,
* version: the opcode of the question, version of the interface, name of the server,
* value: a response's opcode, variable, element, typed value,
* subscription: a response's opcode, element, number of values in one byte, and for each value its
  variable, result and typed value.
-/

namespace PedestrianControl

namespace Decoder

/-- A result code. -/
def resultCode : Decoder ResultCode := do
  let code ← byte
  match ResultCode.ofCode? code with
  | some r => return r
  | none => throw (.protocol (.unknownResult code))

/-- An opcode that only replies carry. -/
def responseOpcode : Decoder Opcode := do
  let o ← opcode
  if o.category = .response then return o
  else throw (.protocol (.notAResponse o.code))

/-- The content of a status unit. -/
def statusContent : Decoder Status := do
  let o ← opcode
  let result ← resultCode
  let description ← string
  finished fun bytes => .trailingAfterPart bytes .status
  return ⟨o, result, description⟩

/-- The content of a version unit. -/
def versionContent : Decoder VersionInfo := do
  let o ← opcode
  if o ≠ .getVersion then throw (.protocol (.notAVersion o.code))
  let api ← int32
  let identifier ← string
  finished fun bytes => .trailingAfterPart bytes .version
  return ⟨api, identifier⟩

/-- The content of a value unit. -/
def valueContent : Decoder ValueReport := do
  let o ← responseOpcode
  let var ← byte
  let element ← string
  let value ← typed
  finished fun bytes => .trailingAfterPart bytes .value
  return ⟨o, var, element, value⟩

/-- One value of a subscription. -/
def subscribedValue : Decoder SubscribedValue := do
  let var ← byte
  let status ← resultCode
  let value ← typed
  return ⟨var, status, value⟩

/-- The content of a subscription unit. -/
def subscriptionContent : Decoder SubscriptionResult := do
  let o ← responseOpcode
  let element ← string
  let count ← byte
  let values ← many count.toNat subscribedValue
  finished fun bytes => .trailingAfterPart bytes .subscription
  return ⟨o, element, values⟩

end Decoder

/-- The status that is the content of a unit. -/
def Status.decode (content : Bytes) : Except Error Status := Decoder.statusContent.run content

/-- The version that is the content of a unit. -/
def VersionInfo.decode (content : Bytes) : Except Error VersionInfo :=
  Decoder.versionContent.run content

/-- The value that is the content of a unit. -/
def ValueReport.decode (content : Bytes) : Except Error ValueReport :=
  Decoder.valueContent.run content

/-- The subscription's values that are the content of a unit. -/
def SubscriptionResult.decode (content : Bytes) : Except Error SubscriptionResult :=
  Decoder.subscriptionContent.run content

namespace Output

/-- The content of a status unit. -/
def statusContent (s : Status) : Output :=
  byte s.opcode.code ++ byte s.result.code ++ string s.description

/-- The content of a version unit. -/
def versionContent (v : VersionInfo) : Output :=
  byte Opcode.getVersion.code ++ int32 v.api ++ string v.identifier

/-- The content of a value unit. -/
def valueContent (v : ValueReport) : Output :=
  byte v.opcode.code ++ byte v.var ++ string v.element ++ typed v.value

/-- One value of a subscription. -/
def subscribedValue (v : SubscribedValue) : Output :=
  byte v.var ++ byte v.status.code ++ typed v.value

/-- The content of a subscription unit. -/
def subscriptionContent (r : SubscriptionResult) : Output :=
  if r.values.length ≤ 255 then
    byte r.opcode.code ++ string r.element ++ byte r.values.length.toUInt8 ++
      each subscribedValue r.values
  else fail (.protocol (.tooManyValues r.values.length))

end Output

end PedestrianControl
