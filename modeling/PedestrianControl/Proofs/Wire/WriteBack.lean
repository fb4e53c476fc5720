import PedestrianControl.Proofs.Wire.Parsed

/-!
# What was read is written back

The converse of `Proofs.Wire.ReadBack`: a decoder accepts nothing but what is written of the value it
gives. `Exact d write` says this of any bytes whatever. A layout is written field by field, so the proofs
carry what has been written so far: `Completes d before write` says that the bytes taken by `d` complete
the output `before` to that of the value. `Completes.bind` follows a `do` block from field to field, and
at its end both outputs are compared.

No bound on the number of bytes is needed here, since a count that was read has not wrapped. Together with
`reads_typed`, which needs one, this makes reading and writing typed values inverse to each other
(`typed_inverse`).
-/

namespace PedestrianControl

namespace Decoder

variable {α β : Type} {before : Output}

/-- Whenever the decoder gives a value, the bytes it took complete what was written before to what is
written of the value. -/
def Completes (d : Decoder α) (before : Output) (write : α → Output) : Prop :=
  ∀ bytes a rest, d bytes = .ok a rest →
    ∃ taken, bytes = taken ++ rest ∧ write a = before ++ .of taken

/-- Whenever the decoder gives a value, it took exactly what is written of the value. -/
def Exact (d : Decoder α) (write : α → Output) : Prop := d.Completes (.of []) write

/-- A value that is written as what came before is complete. -/
theorem Completes.pure {write : α → Output} {a : α} (h : write a = before) :
    (Pure.pure a : Decoder α).Completes before write := by
  intro bytes b rest hb
  cases hb
  exact ⟨[], rfl, h.trans (Output.append_of_nil before).symm⟩

/-- An error completes nothing. -/
theorem completes_throw (e : Error) (write : α → Output) :
    (throw e : Decoder α).Completes before write := by
  intro bytes a rest ha
  cases ha

/-- What comes first has been written when what comes next is, and its value may be used there. -/
theorem Completes.bind_gives {d : Decoder α} {f : α → Decoder β} {first : α → Output}
    {write : β → Output} {P : α → Prop} (hd : d.Completes before first) (hP : d.Gives P)
    (hf : ∀ a, P a → (f a).Completes (first a) write) : (d >>= f).Completes before write := by
  intro bytes b rest hb
  obtain ⟨a, between, ha, hnext⟩ := eq_ok_of_bind_eq_ok hb
  obtain ⟨taken, hbytes, hfirst⟩ := hd bytes a between ha
  obtain ⟨taken', hbetween, hwrite⟩ := hf a (hP bytes a between ha) between b rest hnext
  refine ⟨taken ++ taken', by rw [hbytes, hbetween, List.append_assoc], ?_⟩
  rw [hwrite, hfirst, Output.append_assoc, Output.of_append]

/-- A field completed first, and what completes the rest. -/
theorem Completes.bind {d : Decoder α} {f : α → Decoder β} {first : α → Output} {write : β → Output}
    (hd : d.Completes before first) (hf : ∀ a, (f a).Completes (first a) write) :
    (d >>= f).Completes before write :=
  hd.bind_gives (gives_true d) fun a _ => hf a

/-- What is exact by itself is so after anything. -/
theorem Exact.after {d : Decoder α} {write : α → Output} (h : d.Exact write) (before : Output) :
    d.Completes before fun a => before ++ write a := by
  intro bytes a rest ha
  obtain ⟨taken, hbytes, hwrite⟩ := h bytes a rest ha
  refine ⟨taken, hbytes, ?_⟩
  show before ++ write a = before ++ .of taken
  rw [hwrite, Output.of_nil_append]

/-- A field is written after those before it. -/
theorem Exact.bind {d : Decoder α} {f : α → Decoder β} {field : α → Output} {write : β → Output}
    (hd : d.Exact field) (hf : ∀ a, (f a).Completes (before ++ field a) write) :
    (d >>= f).Completes before write :=
  (hd.after before).bind hf

/-- What an exact decoder took is without a fault what is written of the value. -/
theorem Exact.eq_append {d : Decoder α} {write : α → Output} (h : d.Exact write) {bytes rest : Bytes}
    {a : α} (ha : d bytes = .ok a rest) : ∃ taken, bytes = taken ++ rest ∧ write a = .of taken :=
  h bytes a rest ha

/-! ## Single fields -/

/-- A byte is what is written of it. -/
theorem exact_byte : byte.Exact .byte := by
  intro bytes b rest hb
  cases bytes with
  | nil => cases hb
  | cons c bytes =>
    cases hb
    exact ⟨[b], rfl, rfl⟩

theorem exact_int8 : int8.Exact .int8 := by
  intro bytes n rest hn
  cases bytes with
  | nil => cases hn
  | cons b bytes =>
    cases hn
    refine ⟨[b], rfl, ?_⟩
    rw [Output.int8, UInt8.toUInt8_toInt8]
    rfl

theorem exact_int32 : int32.Exact .int32 := by
  intro bytes n rest hn
  unfold int32 at hn
  split at hn
  · rename_i a b c d bytes
    cases hn
    refine ⟨[a, b, c, d], rfl, ?_⟩
    rw [Output.int32, UInt32.toUInt32_toInt32, bytes32_word32]
    rfl
  · cases hn

/-- A double is what is written of it, bit by bit. -/
theorem exact_double : double.Exact .double := by
  intro bytes x rest hx
  unfold double at hx
  split at hx
  · rename_i a b c d e f g h bytes
    cases hx
    refine ⟨[a, b, c, d, e, f, g, h], rfl, ?_⟩
    rw [Output.double, bytes64, highHalf_word64, lowHalf_word64, bytes32_word32, bytes32_word32]
    rfl
  · cases hx

/-- So many bytes are those in front. -/
theorem eq_append_of_take {n : Nat} {bytes taken rest : Bytes} (h : take n bytes = .ok taken rest) :
    bytes = taken ++ rest ∧ taken.length = n := by
  rw [take] at h
  split at h
  · rename_i hlength
    cases h
    exact ⟨(List.take_append_drop n bytes).symm, hlength⟩
  · cases h

/-- Text of so many bytes is written in as many. -/
theorem eq_append_of_text {n : Nat} {bytes rest : Bytes} {s : String} (h : text n bytes = .ok s rest) :
    bytes = Utf8.encode s ++ rest ∧ (Utf8.encode s).length = n := by
  obtain ⟨raw, between, hraw, hs⟩ := eq_ok_of_bind_eq_ok h
  obtain ⟨rfl, hlength⟩ := eq_append_of_take hraw
  cases hdecode : Utf8.decode raw with
  | error fault =>
    rw [hdecode] at hs
    cases hs
  | ok t =>
    rw [hdecode] at hs
    cases hs
    rw [Utf8.encode_of_decode hdecode]
    exact ⟨rfl, hlength⟩

/-- A count that was read is written as it was, if it tells the size of what was read behind it. -/
theorem exact_counted {fault : Int → ProtocolFault} {read : Nat → Decoder α} {size : α → Nat}
    {write : α → Output} (hread : ∀ n, (read n).Exact write)
    (hsize : ∀ n, (read n).Gives fun a => size a = n) :
    (counted fault read).Exact fun a => .count (size a) ++ write a := by
  refine exact_int32.bind fun n => ?_
  by_cases hn : n < 0
  · rw [if_pos hn]
    exact completes_throw _ _
  · rw [if_neg hn]
    intro bytes a rest ha
    obtain ⟨taken, hbytes, hwrite⟩ := (hread n.toNatClampNeg).eq_append ha
    refine ⟨taken, hbytes, ?_⟩
    -- the count was not negative, so it is the number that it was clamped to
    show Output.count (size a) ++ write a = .int32 n ++ .of taken
    rw [hsize n.toNatClampNeg bytes a rest ha, hwrite, Output.count,
      Int32.ofNat_toNatClampNeg n (Int32.not_lt.1 hn)]

/-- A string is what is written of it: there is one way to write a text in UTF-8. -/
theorem exact_string : string.Exact .string := by
  have hread : ∀ n, (text n).Exact fun s => .of (Utf8.encode s) :=
    fun n bytes s rest hs => ⟨Utf8.encode s, (eq_append_of_text hs).1, rfl⟩
  have hsize : ∀ n, (text n).Gives fun s => (Utf8.encode s).length = n :=
    fun n bytes s rest hs => (eq_append_of_text hs).2
  exact exact_counted hread hsize

/-! ## Lists -/

/-- So many elements are what is written of each, in order. -/
theorem exact_many {item : Decoder α} {write : α → Output} (h : item.Exact write) (n : Nat) :
    (many n item).Exact (.each write) := by
  induction n with
  | zero => exact Completes.pure rfl
  | succ n ih =>
    rw [many_succ_eq_bind]
    exact h.bind fun a => ih.bind fun others => Completes.pure rfl

/-- A list is what is written of it, its count in front. -/
theorem exact_list {item : Decoder α} {write : α → Output} (h : item.Exact write) :
    (list item).Exact (.list write) :=
  exact_counted (exact_many h) (gives_many item)

/-- A number of elements in one byte is written as it was. -/
theorem shortCount_toNat (count : UInt8) (fault : Nat → ProtocolFault) :
    Output.shortCount count.toNat fault = .byte count := by
  have hcount := count.toNat_lt
  rw [Output.shortCount, if_pos (by omega), Nat.toUInt8_eq, UInt8.ofNat_toNat]

/-! ## Typed values -/

theorem exact_dataType : dataType.Exact fun t => .byte t.code := by
  refine exact_byte.bind fun code => ?_
  cases ht : DataType.ofCode? code with
  | none => exact completes_throw _ _
  | some t => exact Completes.pure (by rw [DataType.code_of_ofCode? ht]; rfl)

theorem exact_vec2 : vec2.Exact .vec2 :=
  exact_double.bind fun _ => exact_double.bind fun _ => Completes.pure rfl

theorem exact_vec3 : vec3.Exact .vec3 :=
  exact_double.bind fun _ => exact_double.bind fun _ => exact_double.bind fun _ => Completes.pure rfl

theorem exact_color : color.Exact .color :=
  exact_byte.bind fun _ => exact_byte.bind fun _ => exact_byte.bind fun _ => exact_byte.bind fun _ =>
    Completes.pure rfl

/-- Behind the byte of its data type the body completes a typed value, if a compound's items are exact. -/
theorem completes_body {item : Decoder TypedValue} (h : item.Exact .typed) (t : DataType) :
    (body item t).Completes (.byte t.code) .typed := by
  cases t with
  | pos2d => exact exact_vec2.bind fun _ => Completes.pure rfl
  | pos3d => exact exact_vec3.bind fun _ => Completes.pure rfl
  | polygon =>
    refine exact_byte.bind fun count => ?_
    refine ((exact_many exact_vec2 count.toNat).after _).bind_gives (gives_many vec2 _) ?_
    intro points hpoints
    refine Completes.pure ?_
    rw [Output.typed, Output.value, hpoints, shortCount_toNat, Output.append_assoc]
    rfl
  | ubyte => exact exact_byte.bind fun _ => Completes.pure rfl
  | byte => exact exact_int8.bind fun _ => Completes.pure rfl
  | integer => exact exact_int32.bind fun _ => Completes.pure rfl
  | double => exact exact_double.bind fun _ => Completes.pure rfl
  | string => exact exact_string.bind fun _ => Completes.pure rfl
  | stringList => exact (exact_list exact_string).bind fun _ => Completes.pure rfl
  | compound =>
    refine (exact_list h).bind fun items => Completes.pure ?_
    rw [Output.typed, Output.value, Output.typedItems_eq_each]
    rfl
  | color => exact exact_color.bind fun _ => Completes.pure rfl

/-- However deep the nesting may be, a typed value takes what is written of it. -/
theorem exact_typedWithin (levels : Nat) : (typedWithin levels).Exact .typed := by
  induction levels with
  | zero => exact completes_throw _ _
  | succ levels ih => exact exact_dataType.bind fun t => completes_body ih t

/-- A typed value is what is written of it, at any depth. -/
theorem exact_typed : typed.Exact .typed :=
  fun bytes => exact_typedWithin bytes.length bytes

/-- Reading a typed value and writing it are inverse: what was read off is what is written of the value,
and what is written, if short enough for counts, is read as the value, whatever follows it. -/
theorem typed_inverse (v : TypedValue) :
    (∀ bytes rest, typed bytes = .ok v rest →
      ∃ written, (Output.typed v).result = .ok written ∧ bytes = written ++ rest) ∧
    (∀ written, (Output.typed v).result = .ok written → written.length < 2 ^ 31 →
      ∀ rest, typed (written ++ rest) = .ok v rest) := by
  constructor
  · intro bytes rest hread
    obtain ⟨taken, hbytes, hwrite⟩ := exact_typed.eq_append hread
    exact ⟨taken, by rw [hwrite, Output.result_of], hbytes⟩
  · intro written hwrite hlength rest
    obtain ⟨herr, rfl⟩ := Output.result_eq_ok_iff.1 hwrite
    exact reads_typed v herr hlength rest

/-- A compound with a compound in it. -/
theorem typed_inverse_nested :
    let v := .compound [.polygon [0], .compound [.string "ü", .stringList ["", "a"]], .integer (-1)]
    let written := (Output.typed v).bytes
    ((Output.typed v).result = .ok written ∧ written.length < 2 ^ 31) ∧
      typed (written ++ [7]) = .ok v [7] ∧
      ∃ again, (Output.typed v).result = .ok again ∧ written ++ [7] = again ++ [7] := by
  intro v written
  have hwrite : (Output.typed v).result = .ok written :=
    Output.result_eq_ok_iff.2 ⟨Output.error?_typed_eq_none.2 (by decide), rfl⟩
  have hlength : written.length < 2 ^ 31 := by decide +kernel
  have hread := (typed_inverse v).2 written hwrite hlength [7]
  exact ⟨⟨hwrite, hlength⟩, hread, (typed_inverse v).1 _ _ hread⟩

end Decoder

end PedestrianControl
