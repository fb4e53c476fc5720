import PedestrianControl.Proofs.Wire.ReadBack
import PedestrianControl.Wire.Frame

/-!
# The front of a stream

`Frame.front` decides on the bytes that have arrived so far. What it finds depends on the length in front
alone and on whether enough bytes stand behind it (`front_header`); bytes that arrive later change nothing
that was found (`front_append_of_complete`, `front_append_of_fault`). The frame that a payload is written
as is found again (`front_encode`), unless it is above the limit (`front_encode_of_lt`).
-/

namespace PedestrianControl.Frame

/-- The four bytes of a length. -/
def header (length : Int32) : Bytes := bytes32 length.toUInt32

theorem length_header (length : Int32) : (header length).length = lengthField := rfl

/-- Any four bytes are those of a length. -/
theorem exists_header {bytes : Bytes} (h : lengthField ≤ bytes.length) :
    ∃ length rest, bytes = header length ++ rest := by
  match bytes, h with
  | a :: b :: c :: d :: rest, _ =>
    refine ⟨(word32 a b c d).toInt32, rest, ?_⟩
    rw [header, UInt32.toUInt32_toInt32, bytes32_word32]
    rfl

/-- With less than a length nothing can be told. -/
theorem front_of_short {limit : Nat} {bytes : Bytes} (h : bytes.length < lengthField) :
    front limit bytes = .incomplete := by
  match bytes, h with
  | [], _ => rfl
  | [_], _ => rfl
  | [_, _], _ => rfl
  | [_, _, _], _ => rfl

/-- Behind a length that is taken, the payload counts off its bytes. -/
theorem front_header (limit : Nat) (length : Int32) (rest : Bytes) :
    front limit (header length ++ rest) =
      match payloadLength length limit with
      | .error e => .fault e
      | .ok count =>
        if count ≤ rest.length then .complete (rest.take count) (rest.drop count)
        else .incomplete := by
  show (match payloadLength (word32 _ _ _ _).toInt32 limit with
    | .error e => Front.fault e
    | .ok count =>
      if (rest.take count).length = count then .complete (rest.take count) (rest.drop count)
      else .incomplete) = _
  rw [word32_bytes32, Int32.toInt32_toUInt32]
  -- the payload taken is whole exactly if enough bytes are there
  cases payloadLength length limit with
  | error e => rfl
  | ok count =>
    dsimp only
    by_cases h : count ≤ rest.length
    · rw [if_pos h, if_pos (List.length_take_of_le h)]
    · have hshort : (rest.take count).length ≠ count := by
        rw [List.length_take]
        omega
      rw [if_neg h, if_neg hshort]

/-- A length that no frame has is a fault, whatever follows. -/
theorem front_of_fault {limit : Nat} {length : Int32} {e : Error}
    (h : payloadLength length limit = .error e) (rest : Bytes) :
    front limit (header length ++ rest) = .fault e := by
  rw [front_header, h]

/-- A frame of which not all has arrived is awaited. -/
theorem front_of_partial {limit : Nat} {length : Int32} {count : Nat}
    (h : payloadLength length limit = .ok count) {rest : Bytes} (hrest : rest.length < count) :
    front limit (header length ++ rest) = .incomplete := by
  rw [front_header, h]
  exact if_neg (Nat.not_le_of_lt hrest)

/-- A frame of which all has arrived is taken off the front. -/
theorem front_of_payload {limit : Nat} {length : Int32} {payload : Bytes}
    (h : payloadLength length limit = .ok payload.length) (rest : Bytes) :
    front limit (header length ++ (payload ++ rest)) = .complete payload rest := by
  have hle : payload.length ≤ (payload ++ rest).length := by
    rw [List.length_append]
    exact Nat.le_add_right _ _
  rw [front_header, h]
  simp only [if_pos hle, List.take_left', List.drop_left']

/-- A frame found at the front is a length that is taken and as many bytes behind it. -/
theorem eq_of_front_complete {limit : Nat} {bytes payload rest : Bytes}
    (h : front limit bytes = .complete payload rest) :
    ∃ length, payloadLength length limit = .ok payload.length ∧
      bytes = header length ++ (payload ++ rest) := by
  by_cases hshort : bytes.length < lengthField
  · rw [front_of_short hshort] at h
    cases h
  · obtain ⟨length, behind, rfl⟩ := exists_header (Nat.le_of_not_lt hshort)
    rw [front_header] at h
    split at h
    · cases h
    · rename_i count hcount
      split at h
      · rename_i hle
        cases h
        refine ⟨length, ?_, ?_⟩
        · rw [hcount, List.length_take, Nat.min_eq_left hle]
        · rw [List.take_append_drop]
      · cases h

/-- A whole frame takes a byte at least. -/
theorem length_lt_of_front_complete {limit : Nat} {bytes payload rest : Bytes}
    (h : front limit bytes = .complete payload rest) : rest.length < bytes.length := by
  obtain ⟨length, -, rfl⟩ := eq_of_front_complete h
  rw [List.length_append, List.length_append, length_header, lengthField]
  omega

/-- A fault is that of the length in front. -/
theorem eq_of_front_fault {limit : Nat} {bytes : Bytes} {e : Error}
    (h : front limit bytes = .fault e) :
    ∃ length rest, payloadLength length limit = .error e ∧ bytes = header length ++ rest := by
  by_cases hshort : bytes.length < lengthField
  · rw [front_of_short hshort] at h
    cases h
  · obtain ⟨length, rest, rfl⟩ := exists_header (Nat.le_of_not_lt hshort)
    refine ⟨length, rest, ?_, rfl⟩
    rw [front_header] at h
    split at h
    · rename_i hlength
      cases h
      exact hlength
    · split at h <;> cases h

/-! ## Bytes that arrive later -/

/-- A whole frame stays the same, whatever follows. -/
theorem front_append_of_complete {limit : Nat} {bytes payload rest : Bytes}
    (h : front limit bytes = .complete payload rest) (more : Bytes) :
    front limit (bytes ++ more) = .complete payload (rest ++ more) := by
  obtain ⟨length, hlength, rfl⟩ := eq_of_front_complete h
  rw [List.append_assoc, List.append_assoc]
  exact front_of_payload hlength _

/-- A faulty length stays faulty, whatever follows. -/
theorem front_append_of_fault {limit : Nat} {bytes : Bytes} {e : Error}
    (h : front limit bytes = .fault e) (more : Bytes) : front limit (bytes ++ more) = .fault e := by
  obtain ⟨length, rest, hlength, rfl⟩ := eq_of_front_fault h
  rw [List.append_assoc]
  exact front_of_fault hlength _

/-! ## Frames as written -/

/-- A frame is its header and its payload. -/
theorem encode_eq (payload : Bytes) :
    encode payload = header (Int32.ofNat (payload.length + lengthField)) ++ payload := rfl

/-- A frame is longer than its payload by the length in front. -/
theorem length_encode (payload : Bytes) : (encode payload).length = lengthField + payload.length := by
  rw [encode_eq, List.length_append, length_header]

/-- A length that is taken is that of a payload that fits. -/
theorem eq_of_payloadLength {limit : Nat} {length : Int32} {count : Nat}
    (h : payloadLength length limit = .ok count) :
    0 < count ∧ lengthField + count ≤ limit ∧ lengthField + count < 2 ^ 31 ∧
      Int32.ofNat (count + lengthField) = length := by
  have hnat : length.toNatClampNeg = length.toInt.toNat := rfl
  have hlt := length.toInt_lt
  rw [payloadLength] at h
  split at h
  · cases h
  · rename_i hpositive
    split at h
    · cases h
    · rename_i hlimit
      cases h
      rw [lengthField] at hpositive ⊢
      have hcount : length.toNatClampNeg - 4 + 4 = length.toNatClampNeg := by omega
      have hnonneg : 0 ≤ length := by
        rw [Int32.le_iff_toInt_le, Int32.toInt_zero]
        omega
      refine ⟨by omega, by omega, by omega, ?_⟩
      rw [hcount, Int32.ofNat_toNatClampNeg length hnonneg]

/-- A payload's length is taken if there is a payload, the limit admits the frame, and the length does not
wrap. -/
theorem payloadLength_of_le {limit : Nat} {payload : Bytes} (hne : payload ≠ [])
    (hlimit : payload.length + lengthField ≤ limit) (hlt : payload.length + lengthField < 2 ^ 31) :
    payloadLength (Int32.ofNat (payload.length + lengthField)) limit = .ok payload.length := by
  have hpos := List.length_pos_iff.2 hne
  have hnat : (Int32.ofNat (payload.length + lengthField)).toNatClampNeg
      = payload.length + lengthField := Int32.toNatClampNeg_ofNat_of_lt hlt
  have hint : ¬ (Int32.ofNat (payload.length + lengthField)).toInt ≤ lengthField := by
    rw [Int32.toInt_ofNat_of_lt hlt]
    omega
  rw [payloadLength, if_neg hint, hnat, if_neg (Nat.not_lt_of_le hlimit), Nat.add_sub_cancel]

/-- The frame around a payload is found at the front of whatever follows. -/
theorem front_encode {limit : Nat} {payload : Bytes} (hne : payload ≠ [])
    (hlimit : payload.length + lengthField ≤ limit) (hlt : payload.length + lengthField < 2 ^ 31)
    (rest : Bytes) : front limit (encode payload ++ rest) = .complete payload rest := by
  rw [encode_eq, List.append_assoc]
  exact front_of_payload (payloadLength_of_le hne hlimit hlt) rest

/-- A frame above the limit is refused, unless its length wraps. -/
theorem front_encode_of_lt {limit : Nat} {payload : Bytes} (hne : payload ≠ [])
    (hlimit : limit < payload.length + lengthField) (hlt : payload.length + lengthField < 2 ^ 31)
    (rest : Bytes) :
    front limit (encode payload ++ rest) =
      .fault (.frame (.tooLarge (payload.length + lengthField : Nat) limit)) := by
  have hpos := List.length_pos_iff.2 hne
  have hint := Int32.toInt_ofNat_of_lt hlt
  have hnat := Int32.toNatClampNeg_ofNat_of_lt hlt
  have hlong : ¬ (Int32.ofNat (payload.length + lengthField)).toInt ≤ lengthField := by
    rw [hint]
    omega
  have hlength : payloadLength (Int32.ofNat (payload.length + lengthField)) limit =
      .error (.frame (.tooLarge (payload.length + lengthField : Nat) limit)) := by
    rw [payloadLength, if_neg hlong, hnat, if_pos hlimit, hint]
  rw [encode_eq, List.append_assoc]
  exact front_of_fault hlength _

end PedestrianControl.Frame
