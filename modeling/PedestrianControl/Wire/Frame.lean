import PedestrianControl.Wire.Arrival

/-!
# Frames

A frame is a length and a payload. The length is a signed number of four bytes and counts itself, so that a
frame with a payload is longer than four; a reader sets an upper limit.
-/

namespace PedestrianControl.Frame

/-- The bytes of the length. -/
def lengthField : Nat := 4

/-- The usual limit on the length of a frame, sixteen mebibytes. -/
def defaultLimit : Nat := 16777216

/-- The number of payload bytes that a length announces, or what is wrong with the length. -/
def payloadLength (length : Int32) (limit : Nat) : Except Error Nat :=
  if length.toInt ≤ lengthField then .error (.frame (.noPayload length.toInt))
  else if limit < length.toNatClampNeg then .error (.frame (.tooLarge length.toInt limit))
  else .ok (length.toNatClampNeg - lengthField)

/-- The frame around a payload. -/
def encode (payload : Bytes) : Bytes :=
  bytes32 (payload.length + lengthField).toUInt32 ++ payload

/-- The length in front of a frame. -/
def lengthOf : Bytes → Int32
  | [a, b, c, d] => (word32 a b c d).toInt32
  | _ => 0

/-- Reads one frame from a stream and gives its payload. -/
def read (limit : Nat) : Stream.Reader Bytes := do
  let header ← Stream.read lengthField
  match payloadLength (lengthOf header) limit with
  | .error e => throw e
  | .ok count => Stream.read count

/-- What stands at the front of the bytes that have arrived so far. -/
inductive Front
  /-- No whole frame yet. -/
  | incomplete
  /-- A length that no frame may have. -/
  | fault (e : Error)
  /-- A frame's payload, and the bytes after the frame. -/
  | complete (payload rest : Bytes)
deriving Inhabited

/-- Looks for a frame at the front of the bytes that have arrived so far. -/
def front (limit : Nat) : Bytes → Front
  | a :: b :: c :: d :: rest =>
    match payloadLength (word32 a b c d).toInt32 limit with
    | .error e => .fault e
    | .ok count =>
      let payload := rest.take count
      if payload.length = count then .complete payload (rest.drop count) else .incomplete
  | _ => .incomplete

end PedestrianControl.Frame
