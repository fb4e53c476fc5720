import PedestrianControl.Wire.Decoder

/-!
# Streams of bytes

A stream delivers its bytes in portions, as the network happens to, and may fail in between; after its
last portion it has ended, and a portion without bytes says that it has ended too. A read of a number of
bytes collects portions until it has enough. An interrupted read is tried again; any other failure, and
the end of the stream, loses what the read had collected.
-/

namespace PedestrianControl

/-- One thing that a stream does. -/
inductive Arrival
  | bytes (portion : Bytes)
  | failure (error : IoError)
deriving Inhabited

/-- What is still to come on a stream. -/
abbrev Stream := List Arrival

namespace Stream

/-- Takes from a stream, or fails, and leaves what is still to come. -/
abbrev Reader := EStateM Error Stream

/-- The stream with a portion in front, unless the portion is empty. -/
def putBack (portion : Bytes) (s : Stream) : Stream :=
  match portion with
  | [] => s
  | _ => .bytes portion :: s

/-- So many bytes after those already collected, the portions of which come last one first. -/
def readAfter (collected : List Bytes) : Nat → Stream → EStateM.Result Error Stream Bytes
  | 0, s => .ok collected.reverse.flatten s
  | _ + 1, [] => .error .connectionClosed []
  | n + 1, .failure e :: s =>
    if e.kind = .interrupted then readAfter collected (n + 1) s
    else if e.kind = .unexpectedEnd then .error .connectionClosed s
    else .error (.io e) s
  | n + 1, .bytes portion :: s =>
    let taken := portion.take (n + 1)
    if portion.isEmpty then .error .connectionClosed s
    else if taken.length = n + 1 then
      .ok (taken :: collected).reverse.flatten (putBack (portion.drop (n + 1)) s)
    else readAfter (taken :: collected) (n + 1 - taken.length) s
termination_by structural _ s => s

/-- So many bytes. -/
def read (count : Nat) : Reader Bytes := readAfter [] count

/-- Bytes that arrive in portions of a size; of size zero, all at once. -/
def ofBytes (size : Nat) (bs : Bytes) : Stream :=
  if bs.isEmpty then []
  else if size = 0 then [.bytes bs]
  else .bytes (bs.take size) :: ofBytes size (bs.drop size)
termination_by bs.length
decreasing_by
  cases bs with
  | nil => contradiction
  | cons => simp only [List.length_drop, List.length_cons]; omega

/-- All bytes still to come, failures aside. -/
def bytes (s : Stream) : Bytes :=
  s.flatMap fun
    | .bytes portion => portion
    | .failure _ => []

end Stream

end PedestrianControl
