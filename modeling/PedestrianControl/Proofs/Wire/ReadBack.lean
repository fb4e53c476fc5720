import Mathlib.Algebra.GroupWithZero.Nat
import Mathlib.Tactic.ByContra
import PedestrianControl.Wire.Output

/-!
# Reading back what was written

`Reads d o a` says that the decoder `d` undoes the output `o`: whatever bytes follow, it takes exactly
those of `o` and gives `a`. The counts of the wire are signed numbers of four bytes, so this is claimed
only of outputs without a fault and below `2 ^ 31` bytes. Both conditions pass from an output to its
parts, and so `Reads.bind` puts decoders together as `++` puts outputs together; a layout is read back
as soon as its fields are.
-/

namespace PedestrianControl

/-! ## Outputs without a fault -/

namespace Output

variable {α : Type}

@[simp] theorem error?_of (bytes : Bytes) : (of bytes).error? = none := rfl

@[simp] theorem bytes_of (bytes : Bytes) : (of bytes).bytes = bytes := rfl

/-- A joined output has no fault exactly when both parts have none. -/
theorem error?_append_eq_none {a b : Output} :
    (a ++ b).error? = none ↔ a.error? = none ∧ b.error? = none := by
  rcases a with ⟨bytes, _ | e⟩
  · rw [mk_none_append]; simp
  · rw [mk_some_append]; simp

/-- After an output without a fault come the bytes of the next. -/
theorem bytes_append {a b : Output} (h : a.error? = none) : (a ++ b).bytes = a.bytes ++ b.bytes := by
  rcases a with ⟨bytes, _ | e⟩
  · rw [mk_none_append]
  · cases h

/-- Several outputs can be written exactly if each of them can. -/
theorem error?_each_eq_none {f : α → Output} {as : List α} :
    (each f as).error? = none ↔ ∀ a ∈ as, (f a).error? = none := by
  induction as with
  | nil => simp [each]
  | cons a rest ih => rw [each, error?_append_eq_none, ih, List.forall_mem_cons]

/-- A list can be written exactly if each of its elements can. -/
theorem error?_list_eq_none {f : α → Output} {as : List α} :
    (list f as).error? = none ↔ ∀ a ∈ as, (f a).error? = none := by
  have hcount : (count as.length).error? = none := rfl
  rw [list, error?_append_eq_none, and_iff_right hcount, error?_each_eq_none]

/-- The bytes of several outputs that can be written are those of each, in order. -/
theorem bytes_each {f : α → Output} {as : List α} (h : ∀ a ∈ as, (f a).error? = none) :
    (each f as).bytes = as.flatMap fun a => (f a).bytes := by
  induction as with
  | nil => rfl
  | cons a rest ih =>
    obtain ⟨ha, hrest⟩ := List.forall_mem_cons.1 h
    rw [each, bytes_append ha, ih hrest, List.flatMap_cons]

/-- Where every element puts out as many bytes as its size, all together put out as many as the sum of the sizes. -/
theorem sum_le_length_each {f : α → Output} {size : α → Nat} {as : List α}
    (h : (each f as).error? = none) (hsize : ∀ a ∈ as, size a ≤ (f a).bytes.length) :
    (as.map size).sum ≤ (each f as).bytes.length := by
  induction as with
  | nil => exact Nat.le_refl 0
  | cons a rest ih =>
    obtain ⟨ha, hrest⟩ := error?_append_eq_none.1 h
    obtain ⟨hfa, hfs⟩ := List.forall_mem_cons.1 hsize
    rw [each, bytes_append ha, List.length_append, List.map_cons, List.sum_cons]
    exact Nat.add_le_add hfa (ih hrest hfs)

/-- Where every element puts out something, there are at most as many elements as bytes. -/
theorem length_le_length_each {f : α → Output} {as : List α} (h : (each f as).error? = none)
    (hne : ∀ a ∈ as, (f a).bytes ≠ []) : as.length ≤ (each f as).bytes.length := by
  have hsum : (as.map fun _ => 1).sum ≤ (each f as).bytes.length :=
    sum_le_length_each h fun a ha => List.length_pos_iff.2 (hne a ha)
  rwa [List.map_const', List.sum_replicate_nat, Nat.mul_one] at hsum

/-- An element puts out no more than all elements together. -/
theorem length_bytes_le_of_mem {f : α → Output} {as : List α} (h : (each f as).error? = none)
    {a : α} (ha : a ∈ as) : (f a).bytes.length ≤ (each f as).bytes.length := by
  rw [bytes_each (error?_each_eq_none.1 h), List.flatMap_def]
  have hmem : (f a).bytes ∈ as.map fun a => (f a).bytes := List.mem_map.2 ⟨a, ha, rfl⟩
  exact (List.sublist_flatten_of_mem hmem).length_le

/-- The result of an output is its bytes, unless there is a fault. -/
theorem result_eq_ok_iff {o : Output} {bytes : Bytes} :
    o.result = .ok bytes ↔ o.error? = none ∧ o.bytes = bytes := by
  rcases o with ⟨written, _ | e⟩ <;> simp [result]

end Output

/-! ## Decoders that undo an output -/

/-- What succeeds is followed by what comes next, in the state that it left. -/
theorem bind_of_ok {ε σ α β : Type} {first : EStateM ε σ α} {next : α → EStateM ε σ β}
    {before between : σ} {a : α} (h : first before = .ok a between) :
    (first >>= next) before = next a between := by
  show EStateM.bind first next before = next a between
  rw [EStateM.bind, h]

/-- What fails is followed by nothing. -/
theorem bind_of_error {ε σ α β : Type} {first : EStateM ε σ α} {next : α → EStateM ε σ β}
    {before between : σ} {e : ε} (h : first before = .error e between) :
    (first >>= next) before = .error e between := by
  show EStateM.bind first next before = .error e between
  rw [EStateM.bind, h]

/-- Where one after the other succeeds, both do. -/
theorem eq_ok_of_bind_eq_ok {ε σ α β : Type} {first : EStateM ε σ α} {next : α → EStateM ε σ β}
    {before after : σ} {b : β} (h : (first >>= next) before = .ok b after) :
    ∃ a between, first before = .ok a between ∧ next a between = .ok b after := by
  cases ha : first before with
  | error e between =>
    rw [bind_of_error ha] at h
    cases h
  | ok a between =>
    rw [bind_of_ok ha] at h
    exact ⟨a, between, rfl, h⟩

namespace Decoder

variable {α β : Type}

/-- Whatever follows, the decoder takes exactly these bytes and gives the value. -/
def Takes (d : Decoder α) (taken : Bytes) (a : α) : Prop :=
  ∀ rest, d (taken ++ rest) = .ok a rest

/-- The decoder takes exactly what was put out and gives the value, unless the writing had a fault or
put out so many bytes that a count of them may wrap. -/
def Reads (d : Decoder α) (o : Output) (a : α) : Prop :=
  o.error? = none → o.bytes.length < 2 ^ 31 → d.Takes o.bytes a

/-- What is taken first is followed by what is taken next. -/
theorem Takes.bind {d : Decoder α} {f : α → Decoder β} {taken taken' : Bytes} {a : α} {b : β}
    (hd : d.Takes taken a) (hf : (f a).Takes taken' b) : (d >>= f).Takes (taken ++ taken') b := by
  intro rest
  rw [List.append_assoc, bind_of_ok (hd (taken' ++ rest))]
  exact hf rest

/-- A decoder that reads nothing gives its value behind anything. -/
theorem Reads.pure (a : α) : (Pure.pure a : Decoder α).Reads (.of []) a := fun _ _ _ => rfl

/-- One decoder after the other undoes one output after the other. -/
theorem Reads.bind {d : Decoder α} {f : α → Decoder β} {o o' : Output} {a : α} {b : β}
    (hd : d.Reads o a) (hf : (f a).Reads o' b) : (d >>= f).Reads (o ++ o') b := by
  intro herr hlen
  -- both conditions of `Reads` hold of the parts because they hold of the whole
  obtain ⟨ho, ho'⟩ := Output.error?_append_eq_none.1 herr
  rw [Output.bytes_append ho] at hlen ⊢
  rw [List.length_append] at hlen
  exact (hd ho (by omega)).bind (hf ho' (by omega))

/-- The last field of a layout, and the value made of all fields. -/
theorem Reads.bind_pure {d : Decoder α} {f : α → β} {o : Output} {a : α} (hd : d.Reads o a) :
    (d >>= fun a => Pure.pure (f a)).Reads o (f a) := by
  have h := hd.bind (f := fun a => Pure.pure (f a)) (Reads.pure (f a))
  rwa [Output.append_of_nil] at h

/-! ## Single fields -/

/-- A byte is read back. -/
theorem reads_byte (b : UInt8) : byte.Reads (.byte b) b := fun _ _ _ => rfl

/-- A byte that stands for something. -/
theorem reads_coded {f : UInt8 → Decoder α} {code : UInt8} {a : α} (h : f code = pure a) :
    (byte >>= f).Reads (.byte code) a := by
  intro herr hlen rest
  rw [bind_of_ok (reads_byte code herr hlen rest), h]
  rfl

theorem reads_int8 (n : Int8) : int8.Reads (.int8 n) n := fun _ _ _ => rfl

theorem reads_int32 (n : Int32) : int32.Reads (.int32 n) n := by
  intro _ _ rest
  show EStateM.Result.ok (word32 _ _ _ _).toInt32 rest = .ok n rest
  rw [word32_bytes32, Int32.toInt32_toUInt32]

/-- A double is read back, bit by bit. -/
theorem reads_double (d : Double) : double.Reads (.double d) d := by
  intro _ _ rest
  show EStateM.Result.ok (⟨word64 (word32 _ _ _ _) (word32 _ _ _ _)⟩ : Double) rest = .ok d rest
  rw [word32_bytes32, word32_bytes32, word64_halves]

/-- To take so many bytes is to take those in front. -/
theorem takes_take (bytes : Bytes) : (take bytes.length).Takes bytes bytes := by
  intro rest
  simp only [take, List.take_left', List.drop_left', if_true]

/-- A text is taken from its bytes in UTF-8. -/
theorem takes_text (s : String) : (text (Utf8.encode s).length).Takes (Utf8.encode s) s := by
  intro rest
  rw [text, bind_of_ok (takes_take _ rest), Utf8.decode_encode]
  rfl

/-- A count that does not wrap announces just so many things. -/
theorem counted_count {n : Nat} (h : n < 2 ^ 31) (fault : Int → ProtocolFault)
    (read : Nat → Decoder α) (bytes : Bytes) :
    counted fault read ((Output.count n).bytes ++ bytes) = read n bytes := by
  have hcount : int32 ((Output.count n).bytes ++ bytes) = .ok (Int32.ofNat n) bytes :=
    reads_int32 (Int32.ofNat n) rfl (by show 4 < 2 ^ 31; decide) bytes
  have hnonneg : ¬ Int32.ofNat n < 0 := by
    rw [Int32.lt_iff_toInt_lt, Int32.toInt_ofNat_of_lt h, Int32.toInt_zero]
    omega
  rw [counted, bind_of_ok hcount, if_neg hnonneg, Int32.toNatClampNeg_ofNat_of_lt h]

/-- A string is read back, its length in bytes in front. -/
theorem reads_string (s : String) : string.Reads (.string s) s := by
  intro _ hlen rest
  have hbytes : (Output.string s).bytes
      = (Output.count (Utf8.encode s).length).bytes ++ Utf8.encode s := rfl
  rw [hbytes, List.length_append] at hlen
  rw [hbytes, List.append_assoc, string, counted_count (by omega)]
  exact takes_text s rest

/-! ## Lists -/

/-- So many elements are taken one after the other, each from a piece of its own. -/
theorem takes_many_map {item : Decoder α} {f : β → Bytes} {g : β → α} {bs : List β}
    (h : ∀ b ∈ bs, item.Takes (f b) (g b)) : (many bs.length item).Takes (bs.flatMap f) (bs.map g) := by
  induction bs with
  | nil => exact fun _ => rfl
  | cons b rest ih =>
    obtain ⟨hb, hrest⟩ := List.forall_mem_cons.1 h
    intro following
    rw [List.flatMap_cons, List.append_assoc, List.length_cons, many_succ, hb]
    simp only
    rw [ih hrest, List.map_cons]

/-- So many elements are taken one after the other. -/
theorem takes_many {item : Decoder α} {f : α → Bytes} {as : List α}
    (h : ∀ a ∈ as, item.Takes (f a) a) : (many as.length item).Takes (as.flatMap f) as := by
  have hmap := takes_many_map (g := id) h
  rwa [List.map_id] at hmap

/-- So many elements are read back, each from its own output. -/
theorem reads_many {item : Decoder α} {f : α → Output} {as : List α}
    (h : ∀ a ∈ as, item.Reads (f a) a) : (many as.length item).Reads (.each f as) as := by
  intro herr hlen
  have hitems := Output.error?_each_eq_none.1 herr
  rw [Output.bytes_each hitems]
  exact takes_many fun a ha => h a ha (hitems a ha)
    (Nat.lt_of_le_of_lt (Output.length_bytes_le_of_mem herr ha) hlen)

/-- A signed number of elements and then the elements, of which each takes a byte or more. -/
theorem reads_list {item : Decoder α} {f : α → Output} {as : List α}
    (h : ∀ a ∈ as, item.Reads (f a) a) (hne : ∀ a ∈ as, (f a).bytes ≠ []) :
    (list item).Reads (.list f as) as := by
  intro herr hlen rest
  have hcount : (Output.count as.length).error? = none := rfl
  obtain ⟨_, hitems⟩ := Output.error?_append_eq_none.1 herr
  -- the count does not wrap, since there are no more elements than bytes
  have hle := Output.length_le_length_each hitems hne
  rw [Output.list, Output.bytes_append hcount] at hlen ⊢
  rw [List.length_append] at hlen
  rw [List.append_assoc, list, counted_count (by omega)]
  exact reads_many h hitems (by omega) rest

/-- A number of at most 255 is not changed by being a byte. -/
theorem toNat_toUInt8 {n : Nat} (hn : n ≤ 255) : n.toUInt8.toNat = n := by
  rw [Nat.toUInt8_eq, UInt8.toNat_ofNat']
  omega

/-- A number of elements in one byte and then what is made of them. -/
theorem Reads.bind_byte {n : Nat} (hn : n ≤ 255) {f : Nat → Decoder β} {o : Output} {b : β}
    (hf : (f n).Reads o b) :
    (byte >>= fun count => f count.toNat).Reads (.byte n.toUInt8 ++ o) b := by
  refine (reads_byte n.toUInt8).bind ?_
  rwa [toNat_toUInt8 hn]

/-- The same with the number checked on writing. -/
theorem Reads.bind_shortCount {n : Nat} (fault : Nat → ProtocolFault) {f : Nat → Decoder β}
    {o : Output} {b : β} (hf : (f n).Reads o b) :
    (byte >>= fun count => f count.toNat).Reads (.shortCount n fault ++ o) b := by
  intro herr
  have hn : n ≤ 255 := by
    by_contra h
    have hshort := (Output.error?_append_eq_none.1 herr).1
    rw [Output.shortCount, if_neg h] at hshort
    cases hshort
  rw [Output.shortCount, if_pos hn] at herr ⊢
  exact Reads.bind_byte hn hf herr

end Decoder

end PedestrianControl
