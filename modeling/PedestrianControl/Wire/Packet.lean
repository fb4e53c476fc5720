import PedestrianControl.Wire.Response.Codec

/-!
# Payloads and their units

A payload is a run of units. A unit is its own length and its content: the length of the whole unit in one
byte, or, where that does not fit, a zero byte and the length as a signed number of four bytes.

A command is one unit. A response is a status unit and its body, in one more unit; the results of a step
are a bare number and then that many units, each with its length in the longer form. The body is not
announced: what follows a status is decided from the status and from the opcode of the next unit.
-/

namespace PedestrianControl

/-- The most bytes of content that a length of one byte can tell. -/
def shortUnitLimit : Nat := 254

/-- The bytes of the longer form of a unit's length. -/
def extendedHeader : Nat := 5

/-! ## Reading -/

namespace Decoder

/-- So many bytes as the content of a unit. -/
def unitContent (length : Nat) : Decoder Bytes := fun bytes =>
  let content := bytes.take length
  if content.length = length then .ok content (bytes.drop length)
  else .error (.protocol (.unitTooLong length bytes.length)) bytes

/-- The content of the next unit. -/
def unit : Decoder Bytes := do
  let short ← byte
  if short = 0 then
    let extended ← int32
    if extended.toInt < extendedHeader then
      throw (.protocol (.shortExtendedLength extended.toInt))
    unitContent (extended.toNatClampNeg - extendedHeader)
  else unitContent (short.toNat - 1)

/-- The opcode in front of the next unit's content, all bytes left in place; none if there is no
further unit or it is empty. -/
def peekOpcode : Decoder (Option Opcode) := fun bytes =>
  match bytes with
  | [] => .ok none []
  | _ =>
    match unit bytes with
    | .error e _ => .error e bytes
    | .ok [] _ => .ok none bytes
    | .ok (code :: _) _ =>
      match Opcode.ofCode? code with
      | some o => .ok (some o) bytes
      | none => .error (.unknownOpcode code) bytes

/-- The next unit, its content read by a reader of its own. -/
def unitOf {α : Type} (read : Bytes → Except Error α) : Decoder α := do
  let content ← unit
  match read content with
  | .ok a => return a
  | .error e => throw e

/-- The next command. -/
def command : Decoder Command :=
  unitOf fun content =>
    match content with
    | [] => .error (.protocol .emptyCommand)
    | _ => Command.decode content

/-- One result in the answer to a step: a unit in the longer form. -/
def stepResult : Decoder SubscriptionResult := do
  let marker ← peek
  if marker ≠ 0 then throw (.protocol .noExtendedMarker)
  unitOf SubscriptionResult.decode

/-- The results in the answer to a step: a signed number and that many units. -/
def stepResults : Decoder (List SubscriptionResult) :=
  counted .negativeResultCount fun count => many count stepResult

/-- The body after a status of success that need not have one: a value or a subscription's result, if the
next unit is that of a reply. -/
def optionalBody (o : Opcode) : Decoder Body := do
  let next ← peekOpcode
  if next.map Opcode.category = some .response then
    match o.category with
    | .get => return .value (← unitOf ValueReport.decode)
    | .subscribe => return .subscription (← unitOf SubscriptionResult.decode)
    | _ => return .none
  else return .none

/-- The body after a status of success. -/
def responseBody (o : Opcode) : Decoder Body :=
  match o with
  | .getVersion => do return .version (← unitOf VersionInfo.decode)
  | .simStep => do return .simStep (← stepResults)
  | o => optionalBody o

/-- The next response. -/
def response : Decoder Response := do
  let status ← unitOf Status.decode
  if status.result = .ok then
    let body ← responseBody status.opcode
    return ⟨status, body⟩
  else return ⟨status, .none⟩

/-- The next item, or none at the end of the payload. -/
def next? {α : Type} (item : Decoder α) : Decoder (Option α) := fun bytes =>
  match bytes with
  | [] => .ok none []
  | _ => (do return some (← item) : Decoder (Option α)) bytes

/-- All items up to the end of the payload, at most so many; `done` holds those already read, the last one
first. -/
def allAfter {α : Type} (item : Decoder α) (done : List α) : Nat → Decoder (List α)
  | 0 => return done.reverse
  | limit + 1 => do
    match ← next? item with
    | none => return done.reverse
    | some a => allAfter item (a :: done) limit

/-- All items up to the end of the payload. Every item takes a byte, so there are no more items than
bytes. -/
def all {α : Type} (item : Decoder α) : Decoder (List α) := fun bytes =>
  allAfter item [] bytes.length bytes

end Decoder

/-- The commands of a payload; a single malformed one spoils them all. -/
def Command.parse (payload : Bytes) : Except Error (List Command) :=
  (Decoder.all Decoder.command).run payload

/-- The responses of a payload. -/
def Response.parse (payload : Bytes) : Except Error (List Response) :=
  (Decoder.all Decoder.response).run payload

/-! ## Writing -/

/-- A unit in the longer form. -/
def extendedUnit (content : Bytes) : Bytes :=
  0 :: bytes32 (Int32.ofNat (content.length + extendedHeader)).toUInt32 ++ content

/-- A unit in the shorter form if its content fits. -/
def unit (content : Bytes) : Bytes :=
  if content.length ≤ shortUnitLimit then (content.length + 1).toUInt8 :: content
  else extendedUnit content

namespace Output

/-- A command's unit. A command that cannot be written puts out nothing. -/
def command (c : Command) : Output := (commandContent c).enclose unit

/-- The units of a body. -/
def responseBody : Body → Output
  | .none => of []
  | .version info => (versionContent info).enclose unit
  | .value report => (valueContent report).enclose unit
  | .subscription result => (subscriptionContent result).enclose unit
  | .simStep results =>
    list (fun result => (subscriptionContent result).enclose extendedUnit) results

/-- The units of a response. The status is put out even if the body cannot be. -/
def response (r : Response) : Output :=
  (statusContent r.status).enclose unit ++ responseBody r.body

end Output

/-- Writes a command behind a payload. -/
def Command.write (c : Command) : Writer := (Output.command c).write

/-- Writes a response behind a payload. -/
def Response.write (r : Response) : Writer := (Output.response r).write

/-- The payload that holds the commands in order. -/
def Command.encodeAll (commands : List Command) : Except Error Bytes :=
  (Output.each Output.command commands).result

/-- The payload that holds the responses in order. -/
def Response.encodeAll (responses : List Response) : Except Error Bytes :=
  (Output.each Output.response responses).result

end PedestrianControl
