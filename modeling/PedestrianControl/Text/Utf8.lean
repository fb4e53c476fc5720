/-!
# Text as UTF-8

`encode` and `decode` convert between text and bytes. `decode` accepts exactly the encodings; of any other
bytes `fault` says where the first ill-formed sequence stands and how many of its bytes already rule
it out, or that the bytes stop inside a sequence.
-/

namespace PedestrianControl.Utf8

/-- Why bytes are not text. -/
inductive Fault
  /-- From `index` on, `length` bytes begin no sequence that could be completed. -/
  | invalid (length index : Nat)
  /-- The bytes end inside the sequence that begins at `index`. -/
  | incomplete (index : Nat)
deriving DecidableEq, Inhabited, Repr

/-- The wording of a fault. -/
def Fault.message : Fault → String
  | .invalid length index => s!"invalid utf-8 sequence of {length} bytes from index {index}"
  | .incomplete index => s!"incomplete utf-8 byte sequence from index {index}"

/-- A sequence of which some bytes were read: where it began, how many bytes it has so far, the range
its next byte must lie in, and how many more follow that one. -/
structure Open where
  start : Nat
  seen : Nat
  low : UInt8
  high : UInt8
  more : Nat

/-- What a leading byte announces: nothing more, further bytes, or no sequence at all. -/
inductive Lead
  | single
  | several (low high : UInt8) (more : Nat)
  | none

/-- The table of leading bytes. The second byte's range excludes overlong forms, surrogates and
everything above `U+10FFFF`. -/
def lead (b : UInt8) : Lead :=
  if b < 0x80 then .single
  else if 0xC2 ≤ b && b ≤ 0xDF then .several 0x80 0xBF 0
  else if b = 0xE0 then .several 0xA0 0xBF 1
  else if b = 0xED then .several 0x80 0x9F 1
  else if 0xE1 ≤ b && b ≤ 0xEF then .several 0x80 0xBF 1
  else if b = 0xF0 then .several 0x90 0xBF 2
  else if b = 0xF4 then .several 0x80 0x8F 2
  else if 0xF1 ≤ b && b ≤ 0xF3 then .several 0x80 0xBF 2
  else .none

/-- The first fault in the bytes that follow position `index`, with a sequence possibly open. -/
def faultFrom (index : Nat) (pending : Option Open) : List UInt8 → Option Fault
  | [] => pending.map fun o => .incomplete o.start
  | b :: rest =>
    match pending with
    | none =>
      match lead b with
      | .single => faultFrom (index + 1) none rest
      | .several low high more => faultFrom (index + 1) (some ⟨index, 1, low, high, more⟩) rest
      | .none => some (.invalid 1 index)
    | some o =>
      if o.low ≤ b && b ≤ o.high then
        match o.more with
        | 0 => faultFrom (index + 1) none rest
        | more + 1 => faultFrom (index + 1) (some ⟨o.start, o.seen + 1, 0x80, 0xBF, more⟩) rest
      else some (.invalid o.seen o.start)

/-- The first fault in the bytes, if they are not UTF-8. -/
def fault (bytes : List UInt8) : Option Fault := faultFrom 0 none bytes

/-- The bytes of a text. -/
def encode (s : String) : List UInt8 := s.toByteArray.data.toList

/-- The text of which these are the bytes. -/
def decode (bytes : List UInt8) : Except Fault String :=
  if h : bytes.toByteArray.IsValidUTF8 then .ok (String.ofByteArray bytes.toByteArray h)
  else .error ((fault bytes).getD default)

/-- The text of the bytes, with `U+FFFD` in place of every ill-formed sequence; `fuel` bounds the number
of faults. -/
def decodeLossyUpTo : Nat → List UInt8 → String
  | 0, _ => ""
  | fuel + 1, bytes =>
    let clean (part : List UInt8) := (decode part).toOption.getD ""
    match decode bytes, fault bytes with
    | .ok s, _ => s
    | .error _, some (.invalid length index) =>
      clean (bytes.take index) ++ "\uFFFD" ++ decodeLossyUpTo fuel (bytes.drop (index + length))
    | .error _, some (.incomplete index) => clean (bytes.take index) ++ "\uFFFD"
    | .error _, none => ""

/-- The text of the bytes, with `U+FFFD` in place of every ill-formed sequence. -/
def decodeLossy (bytes : List UInt8) : String := decodeLossyUpTo (bytes.length + 1) bytes

/-- Decoding what was encoded gives the text back. -/
theorem decode_encode (s : String) : decode (encode s) = .ok s := by
  have h : (encode s).toByteArray = s.toByteArray := by
    simp [encode, ByteArray.ext_iff, List.data_toByteArray]
  unfold decode
  simp only [h, dif_pos s.isValidUTF8]

/-- Only the encoding of a text decodes to it. -/
theorem encode_of_decode {bytes : List UInt8} {s : String} (h : decode bytes = .ok s) :
    encode s = bytes := by
  unfold decode at h
  split at h
  · cases h
    simp [encode, List.data_toByteArray]
  · cases h

end PedestrianControl.Utf8
