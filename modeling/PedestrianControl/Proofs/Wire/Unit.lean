import PedestrianControl.Proofs.Wire.ReadBack
import PedestrianControl.Wire.Packet

/-!
# Units and runs of units

A unit is read back as its content in either form of its length, as long as the longer form can tell it
(`takes_unit`, `takes_extendedUnit`). A payload is read item by item; `all_flatMap` puts the reads of
single items together. An item may look at what follows it, so the lemma carries a property of the bytes
ahead, which every item needs and restores.
-/

namespace PedestrianControl

/-- The most bytes of content that a unit can have: with its longer header it stays below `2 ^ 31`. -/
def unitLimit : Nat := 2 ^ 31 - 6

theorem unit_ne_nil (content : Bytes) : unit content ≠ [] := by
  rw [unit]
  split
  · exact List.cons_ne_nil _ _
  · exact List.cons_ne_nil _ _

/-- A unit in the longer form takes five bytes more than its content. -/
theorem length_extendedUnit (content : Bytes) :
    (extendedUnit content).length = content.length + 5 := by
  rw [extendedUnit, List.length_append, List.length_cons]
  show 4 + 1 + content.length = content.length + 5
  omega

/-- A unit that stays below the limit of counts has a content that its length can tell. -/
theorem length_unit_lt_iff {content : Bytes} :
    (unit content).length < 2 ^ 31 ↔ content.length ≤ unitLimit := by
  rw [unit, unitLimit, shortUnitLimit]
  split
  · rw [List.length_cons]
    omega
  · rw [length_extendedUnit]
    omega

namespace Output

variable {f : Bytes → Bytes} {o : Output}

/-- An enclosed output has the fault of its content. -/
theorem error?_enclose : (o.enclose f).error? = o.error? := by
  rcases o with ⟨bytes, _ | e⟩ <;> rfl

/-- A content that can be written is enclosed as it is. -/
theorem bytes_enclose (h : o.error? = none) : (o.enclose f).bytes = f o.bytes := by
  rcases o with ⟨bytes, _ | e⟩
  · rfl
  · cases h

/-- A fault leaves no byte of what would have been enclosed. -/
theorem bytes_enclose_of_error {e : Error} (h : o.error? = some e) : (o.enclose f).bytes = [] := by
  rcases o with ⟨bytes, _ | fault⟩
  · cases h
  · rfl

end Output

namespace Decoder

variable {α : Type}

/-! ## Single units -/

/-- A content is taken by its length. -/
theorem takes_unitContent (content : Bytes) :
    (unitContent content.length).Takes content content := by
  intro rest
  simp only [unitContent, List.take_left', List.drop_left', if_true]

/-- A unit in the longer form is read as its content. -/
theorem takes_extendedUnit {content : Bytes} (h : content.length ≤ unitLimit) :
    unit.Takes (extendedUnit content) content := by
  intro rest
  rw [unitLimit] at h
  have hlt : content.length + extendedHeader < 2 ^ 31 := by
    rw [extendedHeader]
    omega
  have hlength : int32 (bytes32 (Int32.ofNat (content.length + extendedHeader)).toUInt32
      ++ (content ++ rest)) = .ok (Int32.ofNat (content.length + extendedHeader)) (content ++ rest) :=
    reads_int32 _ rfl (by show 4 < 2 ^ 31; decide) _
  have hcontent : (Int32.ofNat (content.length + extendedHeader)).toNatClampNeg - extendedHeader
      = content.length := by
    rw [Int32.toNatClampNeg_ofNat_of_lt hlt, Nat.add_sub_cancel]
  have hheader : ¬ (Int32.ofNat (content.length + extendedHeader)).toInt < extendedHeader := by
    rw [Int32.toInt_ofNat_of_lt hlt]
    omega
  rw [extendedUnit, List.append_assoc, List.cons_append, unit,
    bind_of_ok (show byte (_ :: _) = .ok 0 _ from rfl), if_pos rfl, bind_of_ok hlength,
    if_neg hheader, hcontent]
  exact takes_unitContent content rest

/-- A unit is read as its content, whichever form its length has. -/
theorem takes_unit {content : Bytes} (h : content.length ≤ unitLimit) :
    unit.Takes (PedestrianControl.unit content) content := by
  rw [PedestrianControl.unit]
  split
  case isTrue hshort =>
    intro rest
    rw [shortUnitLimit] at hshort
    have hnat : (content.length + 1).toUInt8.toNat = content.length + 1 :=
      toNat_toUInt8 (Nat.succ_le_succ hshort)
    have hzero : (content.length + 1).toUInt8 ≠ 0 := by
      intro h0
      rw [h0] at hnat
      exact absurd hnat (Nat.succ_ne_zero _).symm
    rw [List.cons_append, unit, bind_of_ok (show byte (_ :: _) = .ok _ _ from rfl), if_neg hzero,
      hnat, Nat.add_sub_cancel]
    exact takes_unitContent content rest
  case isFalse => exact takes_extendedUnit h

/-- A unit whose content a reader of its own understands. -/
theorem takes_unitOf {read : Bytes → Except Error α} {bytes content : Bytes} {a : α}
    (hunit : unit.Takes bytes content) (hread : read content = .ok a) :
    (unitOf read).Takes bytes a := by
  intro rest
  rw [unitOf, bind_of_ok (hunit rest), hread]
  rfl

/-- What a reader of its own accepts is read back from its unit. -/
theorem reads_unitOf {read : Bytes → Except Error α} {o : Output} {a : α}
    (h : o.error? = none → o.bytes.length ≤ unitLimit → read o.bytes = .ok a) :
    (unitOf read).Reads (o.enclose PedestrianControl.unit) a := by
  intro herr hlen
  rw [Output.error?_enclose] at herr
  rw [Output.bytes_enclose herr] at hlen ⊢
  have hcontent := length_unit_lt_iff.1 hlen
  exact takes_unitOf (takes_unit hcontent) (h herr hcontent)

/-! ## Contents that end where their layout ends -/

/-- The decoder takes all that was put out, with nothing left, and gives the value; an output with a
fault or too long for counts is left out as in `Reads`. -/
def Ends (d : Decoder α) (o : Output) (a : α) : Prop :=
  o.error? = none → o.bytes.length < 2 ^ 31 → d o.bytes = .ok a []

/-- What is put out as the content of a unit is read back by a reader of its own. -/
theorem Ends.run {d : Decoder α} {o : Output} {a : α} (h : d.Ends o a) (herr : o.error? = none)
    (hlen : o.bytes.length ≤ unitLimit) : d.run o.bytes = .ok a := by
  rw [unitLimit] at hlen
  rw [Decoder.run, h herr (by omega)]
  rfl

/-- A field read back first is followed by what is read back to the end. -/
theorem Reads.bind_ends {β : Type} {d : Decoder α} {f : α → Decoder β} {o o' : Output} {a : α}
    {b : β} (hd : d.Reads o a) (hf : (f a).Ends o' b) : (d >>= f).Ends (o ++ o') b := by
  intro herr hlen
  obtain ⟨ho, ho'⟩ := Output.error?_append_eq_none.1 herr
  rw [Output.bytes_append ho] at hlen ⊢
  rw [List.length_append] at hlen
  rw [bind_of_ok (hd ho (by omega) o'.bytes)]
  exact hf ho' (by omega)

/-- A number of elements in one byte and then the rest of the content. -/
theorem Reads.bind_byte_ends {n : Nat} (hn : n ≤ 255) {f : Nat → Decoder α} {o : Output} {a : α}
    (hf : (f n).Ends o a) :
    (byte >>= fun count => f count.toNat).Ends (.byte n.toUInt8 ++ o) a := by
  refine (reads_byte n.toUInt8).bind_ends ?_
  rwa [toNat_toUInt8 hn]

/-- The last field of a content, the check that nothing is left, and the value made of all fields. -/
theorem Reads.bind_finished {β : Type} {d : Decoder α} {fault : Nat → ProtocolFault} {f : α → β}
    {o : Output} {a : α} (hd : d.Reads o a) :
    (d >>= fun a => finished fault >>= fun _ => Pure.pure (f a)).Ends o (f a) := by
  intro herr hlen
  have h := hd herr hlen []
  rw [List.append_nil] at h
  rw [bind_of_ok h]
  rfl

/-! ## Runs of items -/

/-- An item that is read is the next one. -/
theorem next?_of_ok {item : Decoder α} {bytes rest : Bytes} {a : α} (hne : bytes ≠ [])
    (h : item bytes = .ok a rest) : next? item bytes = .ok (some a) rest := by
  cases bytes with
  | nil => exact absurd rfl hne
  | cons b bytes => exact (bind_of_ok h).trans rfl

/-- An item that cannot be read is an error, not the end. -/
theorem next?_of_error {item : Decoder α} {bytes rest : Bytes} {e : Error} (hne : bytes ≠ [])
    (h : item bytes = .error e rest) : next? item bytes = .error e rest := by
  cases bytes with
  | nil => exact absurd rfl hne
  | cons b bytes => exact bind_of_error h

/-- An item that is read is put before those that follow. -/
theorem allAfter_of_ok {item : Decoder α} {bytes rest : Bytes} {a : α} (hne : bytes ≠ [])
    (h : item bytes = .ok a rest) (done : List α) (limit : Nat) :
    allAfter item done (limit + 1) bytes = allAfter item (a :: done) limit rest := by
  rw [allAfter, bind_of_ok (next?_of_ok hne h)]

/-- Items read up to the end of the payload come after those already read. -/
theorem allAfter_flatMap {item : Decoder α} {f : α → Bytes} {Ahead : Bytes → Prop} {as : List α}
    (hend : Ahead [])
    (hitem : ∀ a ∈ as, ∀ rest, Ahead rest → item (f a ++ rest) = .ok a rest ∧ Ahead (f a ++ rest))
    (hne : ∀ a ∈ as, f a ≠ []) (done : List α) (limit : Nat) (hlimit : as.length ≤ limit) :
    allAfter item done limit (as.flatMap f) = .ok (done.reverse ++ as) [] ∧
      Ahead (as.flatMap f) := by
  -- the last items are read first in the induction, since each needs to know what is ahead of it
  induction as generalizing done limit with
  | nil =>
    rw [List.append_nil]
    refine ⟨?_, hend⟩
    cases limit with
    | zero => rfl
    | succ limit => rfl
  | cons a as ih =>
    obtain ⟨ha, has⟩ := List.forall_mem_cons.1 hitem
    obtain ⟨hna, hnas⟩ := List.forall_mem_cons.1 hne
    obtain ⟨limit, rfl⟩ := Nat.exists_eq_add_one.2 (Nat.lt_of_lt_of_le (Nat.succ_pos _) hlimit)
    obtain ⟨hread, hahead⟩ := ih has hnas (a :: done) limit (Nat.le_of_succ_le_succ hlimit)
    obtain ⟨hfirst, hbefore⟩ := ha _ hahead
    rw [List.flatMap_cons]
    refine ⟨?_, hbefore⟩
    have hne' : f a ++ as.flatMap f ≠ [] := List.append_ne_nil_of_left_ne_nil hna _
    rw [allAfter_of_ok hne' hfirst, hread, List.reverse_cons, List.append_assoc, List.singleton_append]

/-- A run of items is read back in order and with nothing left over. -/
theorem all_flatMap {item : Decoder α} {f : α → Bytes} (Ahead : Bytes → Prop) {as : List α}
    (hend : Ahead [])
    (hitem : ∀ a ∈ as, ∀ rest, Ahead rest → item (f a ++ rest) = .ok a rest ∧ Ahead (f a ++ rest))
    (hne : ∀ a ∈ as, f a ≠ []) : all item (as.flatMap f) = .ok as [] := by
  have hlength : as.length ≤ (as.flatMap f).length := by
    have h := Output.length_le_length_each (f := fun a => .of (f a))
      (Output.error?_each_eq_none.2 fun _ _ => rfl) hne
    rwa [Output.bytes_each fun _ _ => rfl] at h
  exact (allAfter_flatMap hend hitem hne [] _ hlength).1

end Decoder

end PedestrianControl
