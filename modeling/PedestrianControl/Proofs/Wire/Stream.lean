import PedestrianControl.Proofs.Wire.Frame

/-!
# Reading from streams

What a read takes does not depend on how the bytes arrive. `Stream.Delivers s bytes` says that the stream
`s` holds just these bytes, in portions of any sizes and with interruptions in between. A read of so many
bytes takes those in front and leaves a stream that delivers the others (`read_of_delivers`), or finds that
the stream has ended before it had enough (`read_of_short`). Of any stream whatever, a read that succeeds
has taken just the bytes it gives (`eq_append_of_read`).

Frames are read from a stream one after the other up to the first error (`Frame.readAll`). From the bytes
of some frames, cut off anywhere, these are exactly the payloads of the whole frames among them
(`Frame.readAll_of_delivers`).
-/

namespace PedestrianControl

namespace Stream

variable {s left : Stream} {bytes : Bytes} {collected : List Bytes} {n : Nat}

/-- The stream delivers these bytes and ends. It may do so in portions of one byte or more, and be
interrupted before any of them. -/
inductive Delivers : Stream → Bytes → Prop
  | ended : Delivers [] []
  | portion {portion : Bytes} {s : Stream} {bytes : Bytes} (hne : portion ≠ [])
      (behind : Delivers s bytes) : Delivers (.bytes portion :: s) (portion ++ bytes)
  | interruption {e : IoError} {s : Stream} {bytes : Bytes} (hkind : e.kind = .interrupted)
      (behind : Delivers s bytes) : Delivers (.failure e :: s) bytes

/-! ## One portion after the other -/

/-- Nothing more is read than was collected. -/
theorem readAfter_zero (collected : List Bytes) (s : Stream) :
    readAfter collected 0 s = .ok collected.reverse.flatten s := by
  cases s <;> rfl

/-- An interrupted read is tried again. -/
theorem readAfter_interrupted {e : IoError} (he : e.kind = .interrupted) (collected : List Bytes)
    (n : Nat) (s : Stream) :
    readAfter collected (n + 1) (.failure e :: s) = readAfter collected (n + 1) s := by
  rw [readAfter, if_pos he]

/-- A portion that is long enough is cut, and what is left of it is put back. -/
theorem readAfter_long {portion : Bytes} (hlong : n < portion.length) (collected : List Bytes)
    (s : Stream) :
    readAfter collected (n + 1) (.bytes portion :: s) =
      .ok (collected.reverse.flatten ++ portion.take (n + 1)) (putBack (portion.drop (n + 1)) s) := by
  have hne : portion.isEmpty = false := by
    cases portion with
    | nil => exact absurd hlong (Nat.not_lt_zero n)
    | cons b portion => rfl
  have htaken : (portion.take (n + 1)).length = n + 1 := List.length_take_of_le hlong
  rw [readAfter, hne, if_neg Bool.false_ne_true, if_pos htaken, List.reverse_cons,
    List.flatten_append, List.flatten_singleton]

/-- A portion that is not long enough is collected. -/
theorem readAfter_short {portion : Bytes} (hne : portion ≠ []) (hshort : portion.length ≤ n)
    (collected : List Bytes) (s : Stream) :
    readAfter collected (n + 1) (.bytes portion :: s) =
      readAfter (portion :: collected) (n + 1 - portion.length) s := by
  have hempty : portion.isEmpty = false := by rwa [List.isEmpty_eq_false_iff]
  have htake : portion.take (n + 1) = portion := List.take_of_length_le (by omega)
  have hlength : portion.length ≠ n + 1 := by omega
  rw [readAfter, hempty, if_neg Bool.false_ne_true, htake, if_neg hlength]

/-! ## Streams that deliver -/

/-- A portion put back is delivered before the rest. -/
theorem Delivers.putBack (h : s.Delivers bytes) (portion : Bytes) :
    (putBack portion s).Delivers (portion ++ bytes) := by
  cases portion with
  | nil => exact h
  | cons b portion => exact .portion (List.cons_ne_nil b portion) h

/-- From a stream that delivers enough, the bytes in front are read and the rest is left. -/
theorem readAfter_of_delivers (h : s.Delivers bytes) (hn : n ≤ bytes.length)
    (collected : List Bytes) :
    ∃ left, readAfter collected n s = .ok (collected.reverse.flatten ++ bytes.take n) left ∧
      left.Delivers (bytes.drop n) := by
  induction h generalizing n collected with
  | ended =>
    obtain rfl := Nat.le_zero.1 hn
    exact ⟨[], by rw [readAfter_zero, List.take_nil, List.append_nil], .ended⟩
  | interruption hkind behind ih =>
    cases n with
    | zero =>
      exact ⟨_, by rw [readAfter_zero, List.take_zero, List.append_nil], .interruption hkind behind⟩
    | succ n =>
      rw [readAfter_interrupted hkind]
      exact ih hn collected
  | @portion portion s bytes hne behind ih =>
    cases n with
    | zero =>
      exact ⟨_, by rw [readAfter_zero, List.take_zero, List.append_nil], .portion hne behind⟩
    | succ n =>
      by_cases hlong : n < portion.length
      · -- the read ends inside this portion
        refine ⟨Stream.putBack (portion.drop (n + 1)) s, ?_, ?_⟩
        · rw [readAfter_long hlong, List.take_append_of_le_length hlong]
        · rw [List.drop_append_of_le_length hlong]
          exact behind.putBack _
      · -- the whole portion is collected, and the read goes on behind it
        have hshort := Nat.le_of_not_lt hlong
        rw [List.length_append] at hn
        obtain ⟨left, hread, hleft⟩ := ih (n := n + 1 - portion.length) (by omega)
          (portion :: collected)
        have htake : portion.take (n + 1) = portion := List.take_of_length_le (by omega)
        refine ⟨left, ?_, ?_⟩
        · rw [readAfter_short hne hshort, hread, List.reverse_cons, List.flatten_append,
            List.flatten_singleton, List.append_assoc, List.take_append, htake]
        · rwa [List.drop_append, List.drop_of_length_le (by omega), List.nil_append]

/-- A stream that delivers too little is found to have ended. -/
theorem readAfter_of_short (h : s.Delivers bytes) (hn : bytes.length < n)
    (collected : List Bytes) : readAfter collected n s = .error .connectionClosed [] := by
  induction h generalizing n collected with
  | ended =>
    obtain ⟨n, rfl⟩ := Nat.exists_eq_add_one.2 hn
    rfl
  | interruption hkind behind ih =>
    obtain ⟨n, rfl⟩ := Nat.exists_eq_add_one.2 (Nat.zero_lt_of_lt hn)
    rw [readAfter_interrupted hkind]
    exact ih hn collected
  | portion hne behind ih =>
    obtain ⟨n, rfl⟩ := Nat.exists_eq_add_one.2 (Nat.zero_lt_of_lt hn)
    rw [List.length_append] at hn
    rw [readAfter_short hne (by omega)]
    exact ih (by omega) _

/-- A read takes the bytes in front, however they arrive, and leaves the others. -/
theorem read_of_delivers (h : s.Delivers bytes) (hn : n ≤ bytes.length) :
    ∃ left, read n s = .ok (bytes.take n) left ∧ left.Delivers (bytes.drop n) :=
  readAfter_of_delivers h hn []

/-- As many bytes as stand in front are taken as they are. -/
theorem Delivers.read_append {front behind : Bytes} (h : s.Delivers (front ++ behind)) :
    ∃ left, read front.length s = .ok front left ∧ left.Delivers behind := by
  have hlength : front.length ≤ (front ++ behind).length := by
    rw [List.length_append]
    exact Nat.le_add_right _ _
  have hread := read_of_delivers h hlength
  rwa [List.take_left, List.drop_left] at hread

/-- A read of more bytes than there are finds that the stream has ended. -/
theorem read_of_short (h : s.Delivers bytes) (hn : bytes.length < n) :
    read n s = .error .connectionClosed [] :=
  readAfter_of_short h hn []

/-! ## Any stream -/

/-- The bytes of a stream with a portion put back. -/
theorem bytes_putBack (portion : Bytes) (s : Stream) :
    (putBack portion s).bytes = portion ++ s.bytes := by
  cases portion <;> rfl

/-- A read that succeeds has taken just the bytes that it adds to those collected before. -/
theorem eq_append_of_readAfter {found : Bytes} (h : readAfter collected n s = .ok found left) :
    ∃ taken, found = collected.reverse.flatten ++ taken ∧ taken.length = n ∧
      s.bytes = taken ++ left.bytes := by
  cases n with
  | zero =>
    rw [readAfter_zero] at h
    cases h
    exact ⟨[], (List.append_nil _).symm, rfl, rfl⟩
  | succ n =>
    induction s generalizing n collected with
    | nil => cases h
    | cons arrival s ih =>
      cases arrival with
      | failure e =>
        by_cases hkind : e.kind = .interrupted
        · rw [readAfter_interrupted hkind] at h
          exact ih n h
        · rw [readAfter, if_neg hkind] at h
          split at h <;> cases h
      | bytes portion =>
        by_cases hlong : n < portion.length
        · rw [readAfter_long hlong] at h
          cases h
          refine ⟨portion.take (n + 1), rfl, List.length_take_of_le hlong, ?_⟩
          rw [bytes_putBack, ← List.append_assoc, List.take_append_drop]
          rfl
        · by_cases hne : portion = []
          · rw [hne] at h
            cases h
          · -- the read goes on, and still wants a byte or more
            have hshort := Nat.le_of_not_lt hlong
            rw [readAfter_short hne hshort, Nat.succ_sub hshort] at h
            obtain ⟨taken, hfound, hlength, hbytes⟩ := ih _ h
            refine ⟨portion ++ taken, ?_, ?_, ?_⟩
            · rw [hfound, List.reverse_cons, List.flatten_append, List.flatten_singleton,
                List.append_assoc]
            · rw [List.length_append, hlength]
              omega
            · show portion ++ Stream.bytes s = _
              rw [hbytes, List.append_assoc]

/-- A read that succeeds takes just the bytes asked for off the front. -/
theorem eq_append_of_read {taken : Bytes} (h : read n s = .ok taken left) :
    taken.length = n ∧ s.bytes = taken ++ left.bytes := by
  obtain ⟨more, rfl, hlength, hbytes⟩ := eq_append_of_readAfter h
  exact ⟨hlength, hbytes⟩

end Stream

/-! ## Frames -/

namespace Frame

variable {limit : Nat} {payload rest : Bytes} {s left : Stream}

/-- A payload that can be sent in a frame to a reader with a limit. -/
structure Fits (limit : Nat) (payload : Bytes) : Prop where
  ne_nil : payload ≠ []
  le_limit : lengthField + payload.length ≤ limit
  lt_counts : lengthField + payload.length < 2 ^ 31

/-- The length in a header is the one it was made of. -/
theorem lengthOf_header (length : Int32) : lengthOf (header length) = length := by
  show (word32 _ _ _ _).toInt32 = length
  rw [word32_bytes32, Int32.toInt32_toUInt32]

/-- A payload that fits has a length that is accepted. -/
theorem Fits.payloadLength (h : Fits limit payload) :
    payloadLength (Int32.ofNat (payload.length + lengthField)) limit = .ok payload.length := by
  have hlimit := h.le_limit
  have hcounts := h.lt_counts
  exact payloadLength_of_le h.ne_nil (by omega) (by omega)

/-- A whole frame in front is read, and what is behind it is left. -/
theorem read_of_delivers (hfits : Fits limit payload) (h : s.Delivers (encode payload ++ rest)) :
    ∃ left, read limit s = .ok payload left ∧ left.Delivers rest := by
  rw [encode_eq, List.append_assoc] at h
  obtain ⟨between, hheader, hbetween⟩ := h.read_append
  obtain ⟨left, hpayload, hleft⟩ := hbetween.read_append
  refine ⟨left, ?_, hleft⟩
  rw [length_header] at hheader
  rw [read, bind_of_ok hheader, lengthOf_header, hfits.payloadLength]
  exact hpayload

/-- Of a frame that is cut off nothing is read. -/
theorem read_of_cut (hfits : Fits limit payload) {cut : Nat} (hcut : cut < (encode payload).length)
    (h : s.Delivers ((encode payload).take cut)) : read limit s = .error .connectionClosed [] := by
  rw [length_encode] at hcut
  by_cases hshort : cut < lengthField
  · have hlength : ((encode payload).take cut).length < lengthField := by
      rw [List.length_take]
      omega
    rw [read, bind_of_error (Stream.read_of_short h hlength)]
  · -- the length is there, and the payload behind it is not
    have htake : (encode payload).take cut
        = header (Int32.ofNat (payload.length + lengthField)) ++ payload.take (cut - lengthField) := by
      rw [encode_eq, List.take_append, List.take_of_length_le (Nat.le_of_not_lt hshort), length_header]
    rw [htake] at h
    obtain ⟨between, hheader, hbetween⟩ := h.read_append
    have hlength : (payload.take (cut - lengthField)).length < payload.length := by
      rw [List.length_take]
      omega
    rw [length_header] at hheader
    rw [read, bind_of_ok hheader, lengthOf_header, hfits.payloadLength]
    exact Stream.read_of_short hbetween hlength

/-- Whatever is read from a stream fits, and its frame is what was taken. -/
theorem eq_encode_of_read (h : read limit s = .ok payload left) :
    Fits limit payload ∧ Stream.bytes s = encode payload ++ Stream.bytes left := by
  obtain ⟨front, between, hfront, hnext⟩ := eq_ok_of_bind_eq_ok h
  obtain ⟨hlength, hbytes⟩ := Stream.eq_append_of_read hfront
  obtain ⟨length, more, rfl⟩ := exists_header (Nat.le_of_eq hlength.symm)
  -- the four bytes read first are those of the length and no more
  rw [List.length_append, length_header, Nat.add_eq_left] at hlength
  obtain rfl := List.eq_nil_of_length_eq_zero hlength
  rw [List.append_nil] at hbytes hnext
  rw [lengthOf_header] at hnext
  cases hcount : Frame.payloadLength length limit with
  | error e =>
    rw [hcount] at hnext
    cases hnext
  | ok count =>
    rw [hcount] at hnext
    obtain ⟨hpayload, hbetween⟩ := Stream.eq_append_of_read hnext
    obtain ⟨hpos, hlimit, hlt, rfl⟩ := eq_of_payloadLength hcount
    subst hpayload
    refine ⟨⟨List.length_pos_iff.1 hpos, hlimit, hlt⟩, ?_⟩
    rw [hbytes, hbetween, encode_eq, List.append_assoc]

/-! ## Frame after frame -/

/-- A frame that is read takes a byte of the stream. -/
theorem length_lt_of_read (h : read limit s = .ok payload left) :
    (Stream.bytes left).length < (Stream.bytes s).length := by
  rw [(eq_encode_of_read h).2, List.length_append, length_encode, lengthField]
  omega

/-- Reads frames up to the first error: their payloads, the error, and what is still to come. -/
def readAll (limit : Nat) (s : Stream) : List Bytes × Error × Stream :=
  match h : read limit s with
  | .error e left => ([], e, left)
  | .ok payload left =>
    have := length_lt_of_read h
    let (payloads, e, last) := readAll limit left
    (payload :: payloads, e, last)
termination_by (Stream.bytes s).length

/-- An error ends the reading of frames. -/
theorem readAll_of_error {e : Error} (h : read limit s = .error e left) :
    readAll limit s = ([], e, left) := by
  rw [readAll]
  split
  · rename_i e' left' h'
    rw [h] at h'
    cases h'
    rfl
  · rename_i h'
    rw [h] at h'
    cases h'

/-- A frame that is read comes before those that follow. -/
theorem readAll_of_ok (h : read limit s = .ok payload left) :
    readAll limit s = (payload :: (readAll limit left).1, (readAll limit left).2) := by
  rw [readAll]
  split
  · rename_i h'
    rw [h] at h'
    cases h'
  · rename_i payload' left' h'
    rw [h] at h'
    cases h'
    rfl

/-- Where the frame of the payload at a place ends in the bytes of all frames. -/
def endOf (payloads : List Bytes) (i : Nat) : Nat := ((payloads.take (i + 1)).flatMap encode).length

/-- The first frame ends where it is written in full. -/
theorem endOf_cons_zero (payload : Bytes) (payloads : List Bytes) :
    endOf (payload :: payloads) 0 = (encode payload).length := by
  rw [endOf, List.take_succ_cons, List.take_zero, List.flatMap_singleton]

/-- A later frame ends as much later as the first one is long. -/
theorem endOf_cons_succ (payload : Bytes) (payloads : List Bytes) (i : Nat) :
    endOf (payload :: payloads) (i + 1) = (encode payload).length + endOf payloads i := by
  rw [endOf, List.take_succ_cons, List.flatMap_cons, List.length_append, endOf]

/-- From the bytes of some frames, cut off anywhere and arriving in any way, frame after frame is read as
long as it ends before the cut, and then the stream has ended. -/
theorem readAll_of_delivers {payloads : List Bytes} (hfits : ∀ payload ∈ payloads, Fits limit payload)
    {cut : Nat} (h : s.Delivers ((payloads.flatMap encode).take cut)) :
    ∃ whole ≤ payloads.length, readAll limit s = (payloads.take whole, .connectionClosed, []) ∧
      ∀ i < payloads.length, i < whole ↔ endOf payloads i ≤ cut := by
  induction payloads generalizing cut s with
  | nil =>
    have hread : read limit s = .error .connectionClosed [] := by
      rw [List.flatMap_nil, List.take_nil] at h
      rw [read, bind_of_error (Stream.read_of_short h (by decide))]
    exact ⟨0, Nat.le_refl 0, readAll_of_error hread, fun i hi => absurd hi (Nat.not_lt_zero i)⟩
  | cons payload payloads ih =>
    obtain ⟨hpayload, hpayloads⟩ := List.forall_mem_cons.1 hfits
    rw [List.flatMap_cons] at h
    by_cases hcut : (encode payload).length ≤ cut
    · -- the first frame is whole
      rw [List.take_append, List.take_of_length_le hcut] at h
      obtain ⟨left, hread, hleft⟩ := read_of_delivers hpayload h
      obtain ⟨whole, hle, hall, hwhole⟩ := ih hpayloads hleft
      refine ⟨whole + 1, Nat.succ_le_succ hle, ?_, ?_⟩
      · rw [readAll_of_ok hread, hall, List.take_succ_cons]
      · intro i hi
        cases i with
        | zero =>
          rw [endOf_cons_zero]
          exact iff_of_true (Nat.succ_pos whole) hcut
        | succ i =>
          rw [endOf_cons_succ, Nat.succ_lt_succ_iff, hwhole i (Nat.lt_of_succ_lt_succ hi)]
          omega
    · -- the first frame is cut off, and so none ends before the cut
      rw [List.take_append_of_le_length (Nat.le_of_not_le hcut)] at h
      have hread := read_of_cut hpayload (Nat.lt_of_not_le hcut) h
      refine ⟨0, Nat.zero_le _, readAll_of_error hread, fun i hi => ?_⟩
      refine iff_of_false (Nat.not_lt_zero i) ?_
      cases i with
      | zero => rwa [endOf_cons_zero]
      | succ i =>
        rw [endOf_cons_succ]
        omega

/-- Frames are never read short. However the bytes of some frames arrive and wherever they are cut off,
repeated reading gives the payloads of the frames that are whole, in order, and then finds that the stream
has ended. And whatever is read from any stream at all, just its frame was taken. -/
theorem readAll_whole_frames (limit : Nat) :
    (∀ payloads : List Bytes, (∀ payload ∈ payloads, Fits limit payload) → ∀ (cut : Nat) (s : Stream),
      s.Delivers ((payloads.flatMap encode).take cut) →
      ∃ whole ≤ payloads.length, readAll limit s = (payloads.take whole, .connectionClosed, []) ∧
        ∀ i < payloads.length, i < whole ↔ endOf payloads i ≤ cut) ∧
    (∀ (s left : Stream) (payload : Bytes), read limit s = .ok payload left →
      Stream.bytes s = encode payload ++ Stream.bytes left ∧
        payload ≠ [] ∧ lengthField + payload.length ≤ limit) := by
  constructor
  · intro payloads hfits cut s h
    exact readAll_of_delivers hfits h
  · intro s left payload hread
    obtain ⟨hfits, hbytes⟩ := eq_encode_of_read hread
    exact ⟨hbytes, hfits.ne_nil, hfits.le_limit⟩

/-- Two frames of five and six bytes, cut off inside the second, in portions that do not agree with them. -/
theorem readAll_whole_frames_cut :
    let payloads : List Bytes := [[1], [2, 3]]
    let pause : Arrival := .failure ⟨.interrupted, "interrupted"⟩
    let s : Stream := [pause, .bytes [0], .bytes [0, 0, 5], pause, pause, .bytes [1, 0, 0], .bytes [0]]
    ((∀ payload ∈ payloads, Fits 6 payload) ∧ s.Delivers ((payloads.flatMap encode).take 8) ∧
        read 6 s = .ok [1] [.bytes [0, 0], .bytes [0]]) ∧
      (∃ whole ≤ payloads.length, readAll 6 s = (payloads.take whole, .connectionClosed, []) ∧
        ∀ i < payloads.length, i < whole ↔ endOf payloads i ≤ 8) ∧
      Stream.bytes s = encode [1] ++ Stream.bytes [.bytes [0, 0], .bytes [0]] ∧
        [1] ≠ ([] : Bytes) ∧ lengthField + [1].length ≤ 6 := by
  intro payloads pause s
  have hfits : ∀ payload ∈ payloads, Fits 6 payload := by
    rintro payload hpayload
    rcases List.mem_cons.1 hpayload with rfl | hpayload
    · exact ⟨by decide, by decide, by decide⟩
    · obtain rfl := List.mem_singleton.1 hpayload
      exact ⟨by decide, by decide, by decide⟩
  have hportions : s.Delivers ([0] ++ ([0, 0, 5] ++ ([1, 0, 0] ++ ([0] ++ [])))) :=
    .interruption rfl <| .portion (by decide) <| .portion (by decide) <| .interruption rfl <|
      .interruption rfl <| .portion (by decide) <| .portion (by decide) .ended
  have hdelivers : s.Delivers ((payloads.flatMap encode).take 8) := hportions
  have hread : read 6 s = .ok [1] [.bytes [0, 0], .bytes [0]] := rfl
  exact ⟨⟨hfits, hdelivers, hread⟩, (readAll_whole_frames 6).1 payloads hfits 8 s hdelivers,
    (readAll_whole_frames 6).2 s _ [1] hread⟩

end Frame

end PedestrianControl
