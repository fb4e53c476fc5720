import PedestrianControl.Proofs.Wire.PlacedUnit

/-!
# Units are cut off exactly

Contents that are written as units, in whatever form of the length, are cut off again one after the other, and what
follows them is left (`Decoder.takes_many_write`). Over all bytes, what is cut off as a unit is a header that tells
the length of the content, and the content (`Decoder.unit_eq_ok_iff`). `Framed` gives the header in numbers, without
the words of the reader and the writer.

The header counts itself, so the reader subtracts its size from the length that it read. `Decoder.unitBy` leaves these
subtractions open. It is the reader for every way of subtracting that is right where the difference is not negative
(`Decoder.unitBy_eq`), so no other difference is ever taken.
-/

namespace PedestrianControl

/-- The bytes of a content for which a form of the length is asked. Where the shorter form cannot tell the length, the
longer one is taken all the same. -/
def LengthForm.write : LengthForm → Bytes → Bytes
  | short => unit
  | extended => extendedUnit

/-- The bytes are a header that tells the length of the content together with its own, the content, and the rest.
The header is one byte, or a zero byte and a signed number of four bytes. -/
inductive Framed (content rest : Bytes) : Bytes → Prop
  | short {length : UInt8} (hlength : length.toNat = content.length + 1) :
    Framed content rest (length :: (content ++ rest))
  | extended {a b c d : UInt8} (hsign : a.toNat < 128)
    (hlength : ((a.toNat * 256 + b.toNat) * 256 + c.toNat) * 256 + d.toNat = content.length + 5) :
    Framed content rest (0 :: a :: b :: c :: d :: (content ++ rest))

/-! ## The header in numbers -/

/-- Without a sign in the first byte, four bytes are a number that is not negative. -/
theorem toInt_word32 {a b c d : UInt8} (hsign : a.toNat < 128) :
    (word32 a b c d).toInt32.toInt =
      (((a.toNat * 256 + b.toNat) * 256 + c.toNat) * 256 + d.toNat : Nat) := by
  have hb := b.toNat_lt
  have hc := c.toNat_lt
  have hd := d.toNat_lt
  have hword : (word32 a b c d).toNat =
      ((a.toNat * 256 + b.toNat) * 256 + c.toNat) * 256 + d.toNat := by
    rw [word32, Nat.toUInt32_eq, UInt32.toNat_ofNat']
    omega
  show (word32 a b c d).toBitVec.toInt = _
  rw [BitVec.toInt_eq_toNat_of_lt, UInt32.toNat_toBitVec, hword]
  rw [UInt32.toNat_toBitVec, hword]
  omega

/-- A unit frames its content, whatever follows. -/
theorem PlacedUnit.framed (u : PlacedUnit) (rest : Bytes) : Framed u.content rest (u.bytes ++ rest) := by
  obtain ⟨form, content, hfits⟩ := u
  cases form with
  | short => exact .short (Decoder.toNat_toUInt8 (Nat.succ_le_succ hfits))
  | extended =>
    have hlimit : content.length ≤ 2 ^ 31 - 6 := hfits
    have hlength : (Int32.ofNat (content.length + extendedHeader)).toUInt32.toNat
        = content.length + 5 := by
      rw [Int32.toUInt32_ofNat', UInt32.toNat_ofNat', extendedHeader]
      omega
    refine .extended ?_ ?_
    all_goals
      simp only [hlength, Nat.toUInt8_eq, UInt8.toNat_ofNat']
      omega

/-- What is framed is a unit, and what follows it. -/
theorem Framed.exists_placed {content rest bytes : Bytes} (h : Framed content rest bytes) :
    ∃ u : PlacedUnit, u.content = content ∧ bytes = u.bytes ++ rest := by
  cases h with
  | @short length hlength =>
    have hzero : length ≠ 0 := by
      rintro rfl
      cases hlength
    have hcontent : content.length = length.toNat - 1 := by omega
    obtain ⟨u, hu, hbytes⟩ := PlacedUnit.exists_of_short hzero hcontent
    exact ⟨u, hu, by rw [hbytes]; rfl⟩
  | @extended a b c d hsign hlength =>
    have hint := toInt_word32 (b := b) (c := c) (d := d) hsign
    have hnat : (word32 a b c d).toInt32.toNatClampNeg = (word32 a b c d).toInt32.toInt.toNat := rfl
    have hheader : ¬ (word32 a b c d).toInt32.toInt < extendedHeader := by
      rw [extendedHeader]
      omega
    have hcontent : content.length = (word32 a b c d).toInt32.toNatClampNeg - extendedHeader := by
      rw [extendedHeader]
      omega
    obtain ⟨u, hu, hbytes⟩ := PlacedUnit.exists_of_extended hheader hcontent
    refine ⟨u, hu, ?_⟩
    rw [hbytes, UInt32.toUInt32_toInt32, bytes32_word32]
    rfl

namespace Decoder

/-! ## Units over all bytes -/

/-- A unit is read exactly where there is one in front. -/
theorem unit_eq_ok_iff {bytes content rest : Bytes} :
    unit bytes = .ok content rest ↔ Framed content rest bytes := by
  constructor
  · intro h
    obtain ⟨u, rfl, rfl⟩ := PlacedUnit.exists_of_unit h
    exact u.framed rest
  · intro h
    obtain ⟨u, rfl, rfl⟩ := h.exists_placed
    exact u.takes_bytes rest

/-- Bytes that no header frames are refused. -/
theorem exists_error_of_not_framed {bytes : Bytes} (h : ¬ ∃ content rest, Framed content rest bytes) :
    ∃ e left, unit bytes = .error e left := by
  cases hunit : unit bytes with
  | ok content rest => exact absurd ⟨content, rest, unit_eq_ok_iff.1 hunit⟩ h
  | error e left => exact ⟨e, left, rfl⟩

/-! ## Units that were written -/

/-- A content is read from what either form writes of it. -/
theorem takes_write {content : Bytes} (form : LengthForm) (h : content.length ≤ unitLimit) :
    unit.Takes (form.write content) content := by
  cases form with
  | short => exact takes_unit h
  | extended => exact takes_extendedUnit h

/-- Contents are read from what is written of them, each in a form of its own. -/
theorem takes_many_write {written : List (LengthForm × Bytes)} (h : ∀ w ∈ written, w.2.length ≤ unitLimit) :
    (many written.length unit).Takes (written.flatMap fun w => w.1.write w.2) (written.map Prod.snd) :=
  takes_many_map fun w hw => takes_write w.1 (h w hw)

/-! ## The subtractions of a reader -/

/-- The content of the next unit, with the size of the header taken off the length by `subtract`. -/
def unitBy (subtract : Nat → Nat → Decoder Nat) : Decoder Bytes := do
  let short ← byte
  if short = 0 then
    let extended ← int32
    if extended.toInt < extendedHeader then
      throw (.protocol (.shortExtendedLength extended.toInt))
    unitContent (← subtract extended.toNatClampNeg extendedHeader)
  else unitContent (← subtract short.toNat 1)

/-- Any subtraction that is right where nothing is taken off too little makes the same reader. -/
theorem unitBy_eq {subtract : Nat → Nat → Decoder Nat}
    (h : ∀ a b, b ≤ a → subtract a b = pure (a - b)) : unitBy subtract = unit := by
  refine congrArg (byte >>= ·) (funext fun short => ?_)
  by_cases hzero : short = 0
  · rw [if_pos hzero, if_pos hzero]
    refine congrArg (int32 >>= ·) (funext fun extended => ?_)
    by_cases hheader : extended.toInt < extendedHeader
    · rw [if_pos hheader, if_pos hheader]
      rfl
    · -- the length was compared with the size of the longer header
      have hnat : extended.toNatClampNeg = extended.toInt.toNat := rfl
      rw [if_neg hheader, if_neg hheader, h _ _ (by omega)]
      rfl
  · -- a byte that is not zero is at least the size of the shorter header
    have hpos : short.toNat ≠ 0 := fun hnat => hzero (UInt8.toNat_inj.1 hnat)
    rw [if_neg hzero, if_neg hzero, h _ _ (by omega)]
    rfl

/-- Contents written as units in any form of the length are read again in order, and what follows is left. Over all
bytes, exactly those that are a header with its content are read as a unit, and all others are refused. And a reader
never takes off more than there is, whatever that would give. -/
theorem unit_framing_exact :
    (∀ (written : List (LengthForm × Bytes)) (rest : Bytes), (∀ w ∈ written, w.2.length ≤ unitLimit) →
      many written.length unit ((written.flatMap fun w => w.1.write w.2) ++ rest) =
        .ok (written.map Prod.snd) rest) ∧
      (∀ bytes content rest, unit bytes = .ok content rest ↔ Framed content rest bytes) ∧
      (∀ bytes, (¬ ∃ content rest, Framed content rest bytes) → ∃ e left, unit bytes = .error e left) ∧
      ∀ subtract : Nat → Nat → Decoder Nat,
        (∀ a b, b ≤ a → subtract a b = pure (a - b)) → unitBy subtract = unit :=
  ⟨fun _ rest h => takes_many_write h rest, fun _ _ _ => unit_eq_ok_iff,
    fun _ h => exists_error_of_not_framed h, fun _ h => unitBy_eq h⟩

/-- An empty content, one in the longer form without need, and the first that needs it; a length that does not even
count its header; and subtractions that would fail below zero. -/
theorem unit_framing_exact_mixed :
    let written := [(LengthForm.short, []), (.extended, [7]), (.short, List.replicate 255 1)]
    let checked : Nat → Nat → Decoder Nat :=
      fun a b => if b ≤ a then pure (a - b) else throw (.underflow b a)
    (∀ w ∈ written, w.2.length ≤ unitLimit) ∧
      many 3 unit ((written.flatMap fun w => w.1.write w.2) ++ [9]) = .ok (written.map Prod.snd) [9] ∧
      (¬ ∃ content rest, Framed content rest [0, 0, 0, 0, 4]) ∧
      (∃ e left, unit [0, 0, 0, 0, 4] = .error e left) ∧
      (∀ a b, b ≤ a → checked a b = pure (a - b)) ∧ unitBy checked = unit := by
  intro written checked
  have hfit : ∀ w ∈ written, w.2.length ≤ unitLimit := by decide +kernel
  have hframed : ¬ ∃ content rest, Framed content rest [0, 0, 0, 0, 4] := by
    rintro ⟨content, rest, h⟩
    generalize hbytes : ([0, 0, 0, 0, 4] : Bytes) = bytes at h
    cases h with
    | short hlength =>
      obtain ⟨rfl, -⟩ := List.cons.inj hbytes
      cases hlength
    | extended _ hlength =>
      simp only [List.cons.injEq] at hbytes
      obtain ⟨-, rfl, rfl, rfl, rfl, -⟩ := hbytes
      change 4 = content.length + 5 at hlength
      omega
  have hchecked : ∀ a b, b ≤ a → checked a b = pure (a - b) := fun a b hle => if_pos hle
  obtain ⟨hwritten, -, hrefused, hsubtract⟩ := unit_framing_exact
  exact ⟨hfit, hwritten written [9] hfit, hframed, hrefused _ hframed, hchecked,
    hsubtract checked hchecked⟩

end Decoder

end PedestrianControl
