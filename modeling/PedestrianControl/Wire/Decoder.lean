import PedestrianControl.Error

/-!
# Reading bytes

A decoder takes bytes from the front and leaves the rest. One that fails leaves a rest too: what it had
taken before the fault is gone, and a failed read of a single number takes nothing.

All numbers have their most significant byte first.
-/

namespace PedestrianControl

/-- The bytes of a payload, or a part of them. -/
abbrev Bytes := List UInt8

/-- Takes a value from the front of the bytes, or fails, and leaves the rest either way. -/
abbrev Decoder := EStateM Error Bytes

/-- The outcome of a decoder on some bytes: a value or an error, each with the rest. -/
abbrev Decoded (α : Type) := EStateM.Result Error Bytes α

/-- The outcome without the rest. -/
def Decoded.outcome {α : Type} : Decoded α → Except Error α
  | .ok a _ => .ok a
  | .error e _ => .error e

/-- The bytes that were not taken. -/
def Decoded.rest {α : Type} : Decoded α → Bytes
  | .ok _ rest => rest
  | .error _ rest => rest

/-! ## Big-endian numbers -/

/-- Four bytes, most significant first. -/
def bytes32 (n : UInt32) : Bytes :=
  [(n.toNat / 16777216).toUInt8, (n.toNat / 65536).toUInt8, (n.toNat / 256).toUInt8,
    n.toNat.toUInt8]

/-- The number of four bytes, most significant first. -/
def word32 (a b c d : UInt8) : UInt32 :=
  (((a.toNat * 256 + b.toNat) * 256 + c.toNat) * 256 + d.toNat).toUInt32

/-- The more significant half of eight bytes. -/
def highHalf (n : UInt64) : UInt32 := (n.toNat / 4294967296).toUInt32

/-- The less significant half of eight bytes. -/
def lowHalf (n : UInt64) : UInt32 := n.toNat.toUInt32

/-- Eight bytes, most significant first. -/
def bytes64 (n : UInt64) : Bytes := bytes32 (highHalf n) ++ bytes32 (lowHalf n)

/-- The number of two halves. -/
def word64 (high low : UInt32) : UInt64 := (high.toNat * 4294967296 + low.toNat).toUInt64

/-- The four bytes of a number make the number. -/
theorem word32_bytes32 (n : UInt32) :
    word32 (n.toNat / 16777216).toUInt8 (n.toNat / 65536).toUInt8 (n.toNat / 256).toUInt8
      n.toNat.toUInt8 = n := by
  have h := n.toNat_lt
  apply UInt32.toNat_inj.1
  simp only [word32, Nat.toUInt32_eq, UInt32.toNat_ofNat', Nat.toUInt8_eq, UInt8.toNat_ofNat']
  omega

/-- A number made of four bytes has these bytes. -/
theorem bytes32_word32 (a b c d : UInt8) : bytes32 (word32 a b c d) = [a, b, c, d] := by
  have ha := a.toNat_lt
  have hb := b.toNat_lt
  have hc := c.toNat_lt
  have hd := d.toNat_lt
  simp only [bytes32, word32, List.cons.injEq, ← UInt8.toNat_inj, Nat.toUInt32_eq,
    UInt32.toNat_ofNat', Nat.toUInt8_eq, UInt8.toNat_ofNat', and_true]
  omega

/-- The two halves of a number make the number. -/
theorem word64_halves (n : UInt64) : word64 (highHalf n) (lowHalf n) = n := by
  have h := n.toNat_lt
  apply UInt64.toNat_inj.1
  simp only [word64, highHalf, lowHalf, Nat.toUInt32_eq, UInt32.toNat_ofNat', Nat.toUInt64_eq,
    UInt64.toNat_ofNat']
  omega

/-- A number made of two halves has this more significant half. -/
@[simp] theorem highHalf_word64 (high low : UInt32) : highHalf (word64 high low) = high := by
  have h := high.toNat_lt
  have l := low.toNat_lt
  apply UInt32.toNat_inj.1
  simp only [word64, highHalf, Nat.toUInt32_eq, UInt32.toNat_ofNat', Nat.toUInt64_eq,
    UInt64.toNat_ofNat']
  omega

/-- A number made of two halves has this less significant half. -/
@[simp] theorem lowHalf_word64 (high low : UInt32) : lowHalf (word64 high low) = low := by
  have h := high.toNat_lt
  have l := low.toNat_lt
  apply UInt32.toNat_inj.1
  simp only [word64, lowHalf, Nat.toUInt32_eq, UInt32.toNat_ofNat', Nat.toUInt64_eq,
    UInt64.toNat_ofNat']
  omega

/-! ## Single reads -/

namespace Decoder

/-- Runs a decoder on bytes of its own and drops what it leaves. -/
def run {α : Type} (d : Decoder α) (bytes : Bytes) : Except Error α := Decoded.outcome (d bytes)

/-- The next byte, left in place. -/
def peek : Decoder UInt8
  | [] => .error (.underflow 1 0) []
  | b :: rest => .ok b (b :: rest)

/-- One byte. -/
def byte : Decoder UInt8
  | [] => .error (.underflow 1 0) []
  | b :: rest => .ok b rest

/-- One signed byte. -/
def int8 : Decoder Int8
  | [] => .error (.underflow 1 0) []
  | b :: rest => .ok b.toInt8 rest

/-- A signed number of four bytes. -/
def int32 : Decoder Int32
  | a :: b :: c :: d :: rest => .ok (word32 a b c d).toInt32 rest
  | short => .error (.underflow 4 short.length) short

/-- A double of eight bytes. -/
def double : Decoder Double
  | a :: b :: c :: d :: e :: f :: g :: h :: rest =>
    .ok ⟨word64 (word32 a b c d) (word32 e f g h)⟩ rest
  | short => .error (.underflow 8 short.length) short

/-- So many bytes. -/
def take (count : Nat) : Decoder Bytes := fun bytes =>
  let taken := bytes.take count
  if taken.length = count then .ok taken (bytes.drop count)
  else .error (.underflow count bytes.length) bytes

/-- A signed number in front of so many things, which `read` takes; it must not be negative. -/
def counted {α : Type} (fault : Int → ProtocolFault) (read : Nat → Decoder α) : Decoder α := do
  let count ← int32
  if count < 0 then throw (.protocol (fault count.toInt))
  read count.toNatClampNeg

/-- Text of so many bytes of UTF-8. -/
def text (length : Nat) : Decoder String := do
  let raw ← take length
  match Utf8.decode raw with
  | .ok s => return s
  | .error fault => throw (.protocol (.invalidText fault))

/-- Text: a signed length and that many bytes of UTF-8. -/
def string : Decoder String := counted .negativeStringLength text

/-! ## Lists

The number of elements in front is a promise, not a fact: reading stops at the first element that is not
there. -/

/-- So many elements, in order; `done` holds those already read, the last one first. -/
def manyAfter {α : Type} (item : Decoder α) (done : List α) : Nat → Decoder (List α)
  | 0 => return done.reverse
  | n + 1 => do
    let a ← item
    manyAfter item (a :: done) n

/-- So many elements, in order. -/
def many {α : Type} (count : Nat) (item : Decoder α) : Decoder (List α) := manyAfter item [] count

/-- A signed number of elements and then the elements. -/
def list {α : Type} (item : Decoder α) : Decoder (List α) :=
  counted .negativeListLength fun count => many count item

/-- Fails if anything is left, with the number of bytes that are. -/
def finished (fault : Nat → ProtocolFault) : Decoder PUnit := fun bytes =>
  match bytes with
  | [] => .ok ⟨⟩ []
  | _ => .error (.protocol (fault bytes.length)) bytes

/-! ## What the reads of lists do, without the accumulator -/

/-- The items in front of those that are read are given in front of them. -/
theorem manyAfter_eq {α : Type} (item : Decoder α) (n : Nat) (done : List α) (bytes : Bytes) :
    manyAfter item done n bytes =
      match manyAfter item [] n bytes with
      | .ok xs rest => .ok (done.reverse ++ xs) rest
      | .error e rest => .error e rest := by
  induction n generalizing done bytes with
  | zero => simp [manyAfter, pure, EStateM.pure]
  | succ n ih =>
    simp only [manyAfter, bind, EStateM.bind]
    cases item bytes with
    | error e rest => rfl
    | ok a rest =>
      simp only
      rw [ih (a :: done), ih [a]]
      cases manyAfter item [] n rest <;> simp

/-- One element more is that element and then the others. -/
theorem many_succ {α : Type} (item : Decoder α) (n : Nat) (bytes : Bytes) :
    many (n + 1) item bytes =
      match item bytes with
      | .error e rest => .error e rest
      | .ok a rest =>
        match many n item rest with
        | .error e rest => .error e rest
        | .ok xs rest => .ok (a :: xs) rest := by
  simp only [many, manyAfter, bind, EStateM.bind]
  cases item bytes with
  | error e rest => rfl
  | ok a rest =>
    simp only
    rw [manyAfter_eq]
    cases manyAfter item [] n rest <;> simp

end Decoder

end PedestrianControl
