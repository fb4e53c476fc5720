import PedestrianControl.Proofs.Wire.WriteBack

/-!
# Units as they stand in a payload

A unit may tell its length in the shorter or in the longer form, so one content can stand in a payload in
two ways. A `PlacedUnit` is a content with the form chosen. These are exactly the units that a reader
accepts (`takes_bytes`, `exists_of_unit`), and none is the beginning of another, so that bytes are a run
of units in at most one way (`flatMap_bytes_injective`). A writer takes the shorter form where it can
(`shortest`); that gives the same bytes only if the form was the shorter one everywhere
(`flatMap_unit_eq_iff`).
-/

namespace PedestrianControl

/-- The forms of a unit's length. -/
inductive LengthForm
  /-- One byte. -/
  | short
  /-- A zero byte and a signed number of four bytes. -/
  | extended
deriving DecidableEq, Repr

/-- The most bytes of content that a form can tell. -/
def LengthForm.limit : LengthForm → Nat
  | short => shortUnitLimit
  | extended => unitLimit

/-- The number of bytes of the length itself. -/
def LengthForm.header : LengthForm → Nat
  | short => 1
  | extended => extendedHeader

/-- A form is known by the size of its header. -/
theorem LengthForm.eq_of_header_eq {f g : LengthForm} (h : f.header = g.header) : f = g := by
  cases f with
  | short =>
    cases g with
    | short => rfl
    | extended => cases h
  | extended =>
    cases g with
    | short => cases h
    | extended => rfl

/-- A content as it stands in a payload, with its length in one of the forms. -/
@[ext]
structure PlacedUnit where
  form : LengthForm
  content : Bytes
  fits : content.length ≤ form.limit

namespace PlacedUnit

variable {u v : PlacedUnit} {us vs : List PlacedUnit}

/-- The bytes of a unit. -/
def bytes (u : PlacedUnit) : Bytes :=
  match u.form with
  | .short => (u.content.length + 1).toUInt8 :: u.content
  | .extended => extendedUnit u.content

/-- The form is the shorter one if the content admits it. -/
def IsShortest (u : PlacedUnit) : Prop := u.content.length ≤ shortUnitLimit → u.form = .short

/-- A content fits the longer form, whichever form it stands in. -/
theorem length_content_le (u : PlacedUnit) : u.content.length ≤ unitLimit := by
  refine Nat.le_trans u.fits ?_
  cases u.form with
  | short => decide
  | extended => exact Nat.le_refl _

/-- A unit is longer than its content by its header. -/
theorem length_bytes (u : PlacedUnit) : u.bytes.length = u.content.length + u.form.header := by
  rw [bytes]
  cases u.form with
  | short => rfl
  | extended => exact length_extendedUnit u.content

theorem bytes_ne_nil (u : PlacedUnit) : u.bytes ≠ [] := by
  have hpos : 0 < u.form.header := by cases u.form <;> decide
  rw [← List.length_pos_iff, length_bytes]
  omega

/-- Behind a unit there are fewer bytes than with it. -/
theorem length_lt_append (u : PlacedUnit) (rest : Bytes) : rest.length < (u.bytes ++ rest).length := by
  have hpos := List.length_pos_iff.2 u.bytes_ne_nil
  rw [List.length_append]
  omega

/-- A content too long for the shorter form has the longer one. -/
theorem form_of_long (h : ¬ u.content.length ≤ shortUnitLimit) : u.form = .extended := by
  have hfits := u.fits
  cases hform : u.form with
  | short =>
    rw [hform] at hfits
    exact absurd hfits h
  | extended => rfl

/-! ## Reading -/

/-- A unit is read as its content, whatever follows. -/
theorem takes_bytes (u : PlacedUnit) : Decoder.unit.Takes u.bytes u.content := by
  obtain ⟨form, content, hfits⟩ := u
  cases form with
  | short =>
    have hunit : unit content = (content.length + 1).toUInt8 :: content := if_pos hfits
    have htakes := Decoder.takes_unit (Nat.le_trans hfits (by decide))
    rwa [hunit] at htakes
  | extended => exact Decoder.takes_extendedUnit hfits

/-- A content of so many bytes is those in front. -/
theorem eq_append_of_unitContent {n : Nat} {bytes content rest : Bytes}
    (h : Decoder.unitContent n bytes = .ok content rest) :
    bytes = content ++ rest ∧ content.length = n := by
  rw [Decoder.unitContent] at h
  split at h
  · rename_i hlength
    cases h
    exact ⟨(List.take_append_drop n bytes).symm, hlength⟩
  · cases h

/-- A byte that is not zero is the length of a unit in the shorter form. -/
theorem exists_of_short {short : UInt8} {content : Bytes} (hzero : short ≠ 0)
    (hcontent : content.length = short.toNat - 1) :
    ∃ u : PlacedUnit, u.content = content ∧ u.bytes = short :: content := by
  have hpos : short.toNat ≠ 0 := fun h => hzero (UInt8.toNat_inj.1 h)
  have hlt := short.toNat_lt
  have hfits : content.length ≤ LengthForm.short.limit := by
    rw [LengthForm.limit, shortUnitLimit]
    omega
  have hlength : content.length + 1 = short.toNat := by omega
  refine ⟨⟨.short, content, hfits⟩, rfl, ?_⟩
  rw [bytes, hlength, Nat.toUInt8_eq, UInt8.ofNat_toNat]

/-- A number that is long enough for its header is the length of a unit in the longer form. -/
theorem exists_of_extended {length : Int32} {content : Bytes}
    (hheader : ¬ length.toInt < extendedHeader)
    (hcontent : content.length = length.toNatClampNeg - extendedHeader) :
    ∃ u : PlacedUnit, u.content = content ∧
      u.bytes = 0 :: (bytes32 length.toUInt32 ++ content) := by
  have hnat : length.toNatClampNeg = length.toInt.toNat := rfl
  have hlt := length.toInt_lt
  rw [extendedHeader] at hheader hcontent
  have hfits : content.length ≤ LengthForm.extended.limit := by
    rw [LengthForm.limit, unitLimit]
    omega
  have hlength : content.length + extendedHeader = length.toNatClampNeg := by
    rw [extendedHeader]
    omega
  have hnonneg : 0 ≤ length := by
    rw [Int32.le_iff_toInt_le, Int32.toInt_zero]
    omega
  refine ⟨⟨.extended, content, hfits⟩, rfl, ?_⟩
  rw [bytes, extendedUnit, hlength, Int32.ofNat_toNatClampNeg length hnonneg]
  rfl

/-- What is read as a unit is one, in one of the forms. -/
theorem exists_of_unit {bytes content rest : Bytes} (h : Decoder.unit bytes = .ok content rest) :
    ∃ u : PlacedUnit, u.content = content ∧ bytes = u.bytes ++ rest := by
  obtain ⟨short, behind, hshort, hnext⟩ := eq_ok_of_bind_eq_ok h
  obtain ⟨_, rfl, ⟨⟩⟩ := Decoder.exact_byte.eq_append hshort
  by_cases hzero : short = 0
  · rw [if_pos hzero] at hnext
    obtain ⟨length, content', hlength, hbehind⟩ := eq_ok_of_bind_eq_ok hnext
    obtain ⟨_, rfl, ⟨⟩⟩ := Decoder.exact_int32.eq_append hlength
    by_cases hheader : length.toInt < extendedHeader
    · rw [if_pos hheader] at hbehind
      cases hbehind
    · rw [if_neg hheader] at hbehind
      obtain ⟨rfl, hcontent⟩ := eq_append_of_unitContent hbehind
      obtain ⟨u, hu, hbytes⟩ := exists_of_extended hheader hcontent
      refine ⟨u, hu, ?_⟩
      rw [hbytes, hzero]
      exact congrArg (0 :: ·) (List.append_assoc _ _ _).symm
  · rw [if_neg hzero] at hnext
    obtain ⟨rfl, hcontent⟩ := eq_append_of_unitContent hnext
    obtain ⟨u, hu, hbytes⟩ := exists_of_short hzero hcontent
    exact ⟨u, hu, by rw [hbytes]; rfl⟩

/-! ## Runs of units -/

/-- No unit is the beginning of another, with either form of the length. -/
theorem eq_of_bytes_append {rest rest' : Bytes} (h : u.bytes ++ rest = v.bytes ++ rest') :
    u = v ∧ rest = rest' := by
  have hread := u.takes_bytes rest
  rw [h, v.takes_bytes rest'] at hread
  injection hread with hcontent hrest
  refine ⟨PlacedUnit.ext ?_ hcontent.symm, hrest.symm⟩
  -- with the same content, the forms differ in the number of bytes
  rw [hrest] at h
  have hlength := congrArg List.length (List.append_cancel_right h)
  rw [length_bytes, length_bytes, hcontent] at hlength
  exact LengthForm.eq_of_header_eq (Nat.add_left_cancel hlength)

/-- Bytes are a run of units in at most one way. -/
theorem flatMap_bytes_injective (h : us.flatMap bytes = vs.flatMap bytes) : us = vs := by
  induction us generalizing vs with
  | nil =>
    cases vs with
    | nil => rfl
    | cons v vs => exact absurd (List.append_eq_nil_iff.1 h.symm).1 v.bytes_ne_nil
  | cons u us ih =>
    cases vs with
    | nil => exact absurd (List.append_eq_nil_iff.1 h).1 u.bytes_ne_nil
    | cons v vs =>
      obtain ⟨rfl, hrest⟩ := eq_of_bytes_append h
      rw [ih hrest]

/-! ## The form that a writer takes -/

/-- The same content with its length in the shorter form if it admits that. -/
def shortest (u : PlacedUnit) : PlacedUnit :=
  if h : u.content.length ≤ shortUnitLimit then ⟨.short, u.content, h⟩
  else ⟨.extended, u.content, u.length_content_le⟩

/-- A unit is written in the shortest form of its length. -/
theorem bytes_shortest (u : PlacedUnit) : u.shortest.bytes = unit u.content := by
  rw [shortest, unit]
  split <;> rfl

/-- The shortest form has the same content. -/
@[simp] theorem content_shortest (u : PlacedUnit) : u.shortest.content = u.content := by
  rw [shortest]
  split <;> rfl

/-- A unit is as short as it can be exactly if making it so changes nothing. -/
theorem shortest_eq_iff : u.shortest = u ↔ u.IsShortest := by
  constructor
  · intro h hle
    rw [← h, shortest, dif_pos hle]
  · intro h
    rw [shortest]
    split
    case isTrue hle => exact PlacedUnit.ext (h hle).symm rfl
    case isFalse hlong => exact PlacedUnit.ext (form_of_long hlong).symm rfl

/-- A content is written in no more bytes than the unit that it stood in. -/
theorem length_unit_content_le (u : PlacedUnit) : (unit u.content).length ≤ u.bytes.length := by
  rw [← bytes_shortest, shortest]
  split
  case isTrue hle =>
    have hheader : 1 ≤ u.form.header := by cases u.form <;> decide
    rw [length_bytes, length_bytes]
    exact Nat.add_le_add_left hheader _
  case isFalse hlong =>
    refine Nat.le_of_eq ?_
    rw [length_bytes, length_bytes, form_of_long hlong]

/-- Units are written as they stood exactly if each had the shortest form. -/
theorem flatMap_unit_eq_iff :
    (us.flatMap fun u => unit u.content) = us.flatMap bytes ↔ ∀ u ∈ us, u.IsShortest := by
  have hwrite : (us.flatMap fun u => unit u.content) = (us.map shortest).flatMap bytes := by
    rw [List.flatMap_map]
    simp only [bytes_shortest]
  rw [hwrite]
  constructor
  · intro h u hu
    have hmap : us.map shortest = us.map id := by rw [List.map_id, flatMap_bytes_injective h]
    exact shortest_eq_iff.1 (List.map_inj_left.1 hmap u hu)
  · intro h
    have hmap : us.map shortest = us.map id :=
      List.map_inj_left.2 fun u hu => shortest_eq_iff.2 (h u hu)
    rw [hmap, List.map_id]

/-- Contents are written in no more bytes than the units that they stood in. -/
theorem length_flatMap_unit_le :
    (us.flatMap fun u => unit u.content).length ≤ (us.flatMap bytes).length := by
  induction us with
  | nil => exact Nat.le_refl _
  | cons u us ih =>
    rw [List.flatMap_cons, List.flatMap_cons, List.length_append, List.length_append]
    exact Nat.add_le_add u.length_unit_content_le ih

end PlacedUnit

end PedestrianControl
