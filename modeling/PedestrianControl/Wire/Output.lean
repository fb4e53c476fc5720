import PedestrianControl.Wire.Decoder

/-!
# Writing bytes

What an encoder puts out: bytes, and the error that stopped it, if one did. The bytes before the error
were put out all the same. Outputs are joined with `++`; nothing follows an error. A payload is written by putting
outputs behind it one after the other, and may be written on after one that failed.
-/

namespace PedestrianControl

/-- Bytes put out, and the error that stopped the writing. -/
structure Output where
  bytes : Bytes
  error? : Option Error
deriving Inhabited

/-- Puts bytes behind those of a payload, or fails, and leaves the payload with what was put there either way. -/
abbrev Writer := EStateM Error Bytes PUnit

namespace Output

/-- Bytes without a fault. -/
def of (bytes : Bytes) : Output := ⟨bytes, none⟩

/-- A fault before any byte. -/
def fail (e : Error) : Output := ⟨[], some e⟩

/-- One output after the other. -/
protected def append (a b : Output) : Output :=
  match a.error? with
  | some _ => a
  | none => ⟨a.bytes ++ b.bytes, b.error?⟩

instance : Append Output := ⟨Output.append⟩

/-- One output after the other, for all elements in order. -/
def each {α : Type} (f : α → Output) : List α → Output
  | [] => of []
  | a :: rest => f a ++ each f rest

/-- The bytes put into a frame of their own, if there was no fault; a fault leaves no byte. -/
def enclose (f : Bytes → Bytes) (a : Output) : Output :=
  match a.error? with
  | some e => fail e
  | none => of (f a.bytes)

/-- All the bytes, or the fault. -/
def result (a : Output) : Except Error Bytes :=
  match a.error? with
  | some e => .error e
  | none => .ok a.bytes

/-! ## Single writes -/

/-- One byte. -/
def byte (b : UInt8) : Output := of [b]

/-- One signed byte. -/
def int8 (n : Int8) : Output := of [n.toUInt8]

/-- A signed number of four bytes. -/
def int32 (n : Int32) : Output := of (bytes32 n.toUInt32)

/-- A double of eight bytes. -/
def double (d : Double) : Output := of (bytes64 d.bits)

/-- A number of things as a signed number of four bytes; above its range it wraps. -/
def count (n : Nat) : Output := int32 (Int32.ofNat n)

/-- Text: a signed length and the bytes. -/
def string (s : String) : Output :=
  let raw := Utf8.encode s
  count raw.length ++ of raw

/-- A signed number of elements and then the elements. -/
def list {α : Type} (f : α → Output) (items : List α) : Output :=
  count items.length ++ each f items

/-- A number of things as one byte, or the fault that they are too many. -/
def shortCount (n : Nat) (fault : Nat → ProtocolFault) : Output :=
  if n ≤ 255 then byte n.toUInt8 else fail (.protocol (fault n))

/-! ## Writing behind what is there -/

/-- Writes an output behind a payload. A fault is the error of the write; the bytes in front of it stay. -/
def write (o : Output) : Writer := fun payload =>
  match o.error? with
  | some e => .error e (payload ++ o.bytes)
  | none => .ok ⟨⟩ (payload ++ o.bytes)

/-! ## Joining -/

@[simp] theorem of_append (a b : Bytes) : of a ++ of b = of (a ++ b) := rfl

@[simp] theorem of_nil_append (a : Output) : of [] ++ a = a := rfl

/-- After an output without a fault the next one is put out. -/
theorem mk_none_append (bytes : Bytes) (a : Output) :
    (⟨bytes, none⟩ : Output) ++ a = ⟨bytes ++ a.bytes, a.error?⟩ := rfl

/-- After a fault nothing is put out. -/
theorem mk_some_append (bytes : Bytes) (e : Error) (a : Output) :
    (⟨bytes, some e⟩ : Output) ++ a = ⟨bytes, some e⟩ := rfl

@[simp] theorem append_of_nil (a : Output) : a ++ of [] = a := by
  rcases a with ⟨bytes, _ | e⟩
  · rw [mk_none_append]; simp [of]
  · rw [mk_some_append]

/-- Joining outputs is associative. -/
theorem append_assoc (a b c : Output) : a ++ b ++ c = a ++ (b ++ c) := by
  rcases a with ⟨as, _ | e⟩
  · rcases b with ⟨bs, _ | e⟩
    · simp only [mk_none_append, List.append_assoc]
    · simp only [mk_none_append, mk_some_append]
  · simp only [mk_some_append]

@[simp] theorem result_of (bytes : Bytes) : (of bytes).result = .ok bytes := rfl

end Output

end PedestrianControl
