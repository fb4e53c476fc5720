import Mathlib.Data.List.Forall2
import PedestrianControl.Proofs.Wire.PlacedUnit

/-!
# What a parser of commands accepts

The converse of `Proofs.Wire.Command`, over all bytes: a payload that is parsed is a run of units, one for
each command, and the content of each is what is written of its command. Only the form of a unit's length
is free (`Command.exists_units_of_parse`). Contents are followed to their last byte (`Finishes`), and a run
of items is cut into the pieces that the items took (`Items.exists_pieces`).
-/

namespace PedestrianControl

namespace Decoder

variable {α β : Type} {before : Output}

/-! ## Contents that end where their layout ends -/

/-- Whenever the decoder gives a value, it leaves nothing, and the bytes complete what was written before
to what is written of the value. -/
def Finishes (d : Decoder α) (before : Output) (write : α → Output) : Prop :=
  ∀ bytes a rest, d bytes = .ok a rest → rest = [] ∧ write a = before ++ .of bytes

/-- What is completed first may be used to finish what comes next. -/
theorem Completes.bind_gives_finishes {d : Decoder α} {f : α → Decoder β} {first : α → Output}
    {write : β → Output} {P : α → Prop} (hd : d.Completes before first) (hP : d.Gives P)
    (hf : ∀ a, P a → (f a).Finishes (first a) write) : (d >>= f).Finishes before write := by
  intro bytes b rest hb
  obtain ⟨a, between, ha, hnext⟩ := eq_ok_of_bind_eq_ok hb
  obtain ⟨taken, hbytes, hfirst⟩ := hd bytes a between ha
  obtain ⟨hrest, hwrite⟩ := hf a (hP bytes a between ha) between b rest hnext
  refine ⟨hrest, ?_⟩
  rw [hwrite, hfirst, hbytes, Output.append_assoc, Output.of_append]

/-- A field completed first, and what finishes the rest. -/
theorem Completes.bind_finishes {d : Decoder α} {f : α → Decoder β} {first : α → Output}
    {write : β → Output} (hd : d.Completes before first) (hf : ∀ a, (f a).Finishes (first a) write) :
    (d >>= f).Finishes before write :=
  hd.bind_gives_finishes (gives_true d) fun a _ => hf a

/-- The check that nothing is left, after which the value is given. -/
theorem finishes_finished {fault : Nat → ProtocolFault} {write : α → Output} {a : α}
    (h : write a = before) : (finished fault >>= fun _ => pure a).Finishes before write := by
  intro bytes b rest hb
  cases bytes with
  | nil =>
    cases hb
    exact ⟨rfl, h.trans (Output.append_of_nil before).symm⟩
  | cons byte bytes => cases hb

/-- A content that a reader of its own accepts is what is written of the value. -/
theorem Finishes.of_run {d : Decoder α} {write : α → Output} (h : d.Finishes (.of []) write)
    {bytes : Bytes} {a : α} (ha : d.run bytes = .ok a) : write a = .of bytes := by
  obtain ⟨rest, hd⟩ := exists_eq_ok_of_run ha
  exact (h bytes a rest hd).2

/-! ## Runs of items -/

/-- Either the bytes are at their end, or one more item is read. -/
theorem next?_eq_ok {item : Decoder α} {bytes rest : Bytes} {found : Option α}
    (h : next? item bytes = .ok found rest) :
    (bytes = [] ∧ rest = [] ∧ found = none) ∨ ∃ a, found = some a ∧ item bytes = .ok a rest := by
  cases bytes with
  | nil =>
    cases h
    exact .inl ⟨rfl, rfl, rfl⟩
  | cons b bytes =>
    obtain ⟨a, between, ha, hsome⟩ := eq_ok_of_bind_eq_ok h
    cases hsome
    exact .inr ⟨a, rfl, ha⟩

/-- Every item takes a byte. -/
def Shrinks (item : Decoder α) : Prop :=
  ∀ bytes a rest, item bytes = .ok a rest → rest.length < bytes.length

/-- An item that takes a byte is not read from no bytes. -/
theorem Shrinks.ne_nil {item : Decoder α} (h : item.Shrinks) {bytes rest : Bytes} {a : α}
    (hread : item bytes = .ok a rest) : bytes ≠ [] :=
  List.ne_nil_of_length_pos (Nat.zero_lt_of_lt (h _ _ _ hread))

/-- The items are read one after the other, and nothing is left. -/
inductive Items (item : Decoder α) : Bytes → List α → Prop
  | nil : Items item [] []
  | cons {bytes rest : Bytes} {a : α} {as : List α} (hread : item bytes = .ok a rest)
      (hrest : Items item rest as) : Items item bytes (a :: as)

/-- Reading after others up to the end of the bytes, with a limit that is no hindrance, reads the items one
after the other. -/
theorem allAfter_eq_ok_iff {item : Decoder α} (h : item.Shrinks) {limit : Nat} {done as : List α}
    {bytes rest : Bytes} (hlimit : bytes.length ≤ limit) :
    allAfter item done limit bytes = .ok as rest ↔
      rest = [] ∧ ∃ found, as = done.reverse ++ found ∧ Items item bytes found := by
  induction limit generalizing done bytes with
  | zero =>
    obtain rfl := List.eq_nil_of_length_eq_zero (Nat.le_zero.1 hlimit)
    constructor
    · intro hread
      cases hread
      exact ⟨rfl, [], (List.append_nil _).symm, .nil⟩
    · rintro ⟨rfl, found, rfl, hitems⟩
      cases hitems with
      | nil => rw [List.append_nil]; rfl
      | cons hread _ => exact absurd rfl (h.ne_nil hread)
  | succ limit ih =>
    constructor
    · intro hread
      obtain ⟨found, between, hfound, hnext⟩ := eq_ok_of_bind_eq_ok hread
      rcases next?_eq_ok hfound with ⟨rfl, rfl, rfl⟩ | ⟨a, rfl, ha⟩
      · cases hnext
        exact ⟨rfl, [], (List.append_nil _).symm, .nil⟩
      · have hlt := h _ _ _ ha
        obtain ⟨hrest, others, has, hothers⟩ := (ih (by omega)).1 hnext
        refine ⟨hrest, a :: others, ?_, .cons ha hothers⟩
        rw [has, List.reverse_cons, List.append_assoc]
        rfl
    · rintro ⟨rfl, found, rfl, hitems⟩
      cases hitems with
      | nil => rw [List.append_nil]; rfl
      | @cons _ between a others ha hothers =>
        have hlt := h _ _ _ ha
        rw [allAfter_of_ok (h.ne_nil ha) ha]
        refine (ih (by omega)).2 ⟨rfl, others, ?_, hothers⟩
        rw [List.reverse_cons, List.append_assoc]
        rfl

/-- All items are read exactly if they are read one after the other and nothing is left. -/
theorem all_eq_ok_iff {item : Decoder α} (h : item.Shrinks) {as : List α} {bytes rest : Bytes} :
    all item bytes = .ok as rest ↔ rest = [] ∧ Items item bytes as := by
  rw [all, allAfter_eq_ok_iff h (Nat.le_refl _)]
  simp

/-- A reader of its own gives the items exactly if they are read one after the other and nothing is left. -/
theorem run_all_eq_ok_iff {item : Decoder α} (h : item.Shrinks) {as : List α} {bytes : Bytes} :
    (all item).run bytes = .ok as ↔ Items item bytes as := by
  constructor
  · intro hrun
    obtain ⟨rest, hread⟩ := exists_eq_ok_of_run hrun
    exact ((all_eq_ok_iff h).1 hread).2
  · intro hitems
    rw [run, (all_eq_ok_iff h).2 ⟨rfl, hitems⟩]
    rfl

/-- The items have what all that is read has. -/
theorem Items.forall_mem {item : Decoder α} {P : α → Prop} {bytes : Bytes} {as : List α}
    (h : Items item bytes as) (hP : item.Gives P) : ∀ a ∈ as, P a := by
  induction h with
  | nil => exact List.forall_mem_nil P
  | cons hread _ ih => exact List.forall_mem_cons.2 ⟨hP _ _ _ hread, ih⟩

/-- Items that take one piece each cut the bytes into their pieces. -/
theorem Items.exists_pieces {item : Decoder α} {piece : β → Bytes} {R : β → α → Prop}
    (hitem : ∀ bytes a rest, item bytes = .ok a rest → ∃ b, R b a ∧ bytes = piece b ++ rest)
    {bytes : Bytes} {as : List α} (h : Items item bytes as) :
    ∃ bs, List.Forall₂ R bs as ∧ bytes = bs.flatMap piece := by
  induction h with
  | nil => exact ⟨[], .nil, rfl⟩
  | cons hread _ ih =>
    obtain ⟨b, hR, rfl⟩ := hitem _ _ _ hread
    obtain ⟨bs, hothers, rfl⟩ := ih
    exact ⟨b :: bs, .cons hR hothers, (List.flatMap_cons ..).symm⟩

/-- What is read from a unit by a reader of its own is read from the unit's content. -/
theorem exists_of_unitOf {read : Bytes → Except Error α} {bytes rest : Bytes} {a : α}
    (h : unitOf read bytes = .ok a rest) :
    ∃ u : PlacedUnit, read u.content = .ok a ∧ bytes = u.bytes ++ rest := by
  obtain ⟨content, between, hunit, hnext⟩ := eq_ok_of_bind_eq_ok h
  obtain ⟨u, rfl, hbytes⟩ := PlacedUnit.exists_of_unit hunit
  cases hread : read u.content with
  | error e =>
    rw [hread] at hnext
    cases hnext
  | ok b =>
    rw [hread] at hnext
    cases hnext
    exact ⟨u, hread, hbytes⟩

/-! ## Commands -/

/-- An opcode is read from its code and nothing else. -/
theorem exact_opcode : opcode.Exact fun o => .byte o.code := by
  refine exact_byte.bind fun code => ?_
  cases ho : Opcode.ofCode? code with
  | none => exact completes_throw _ _
  | some o => exact Completes.pure (by rw [Opcode.code_of_ofCode? ho]; rfl)

/-- A get is read from exactly its fields. -/
theorem completes_getLayout (o : Opcode) :
    (getLayout o).Completes (.byte o.code) .commandContent := by
  refine exact_byte.bind fun var => exact_string.bind fun element => Completes.pure ?_
  rw [Output.commandContent, Output.commandLayout, Command.opcode, Output.append_assoc]

/-- A set is read from exactly its fields. -/
theorem completes_setLayout (o : Opcode) :
    (setLayout o).Completes (.byte o.code) .commandContent := by
  refine exact_byte.bind fun var => exact_string.bind fun element => exact_typed.bind fun value =>
    Completes.pure ?_
  simp only [Output.commandContent, Output.commandLayout, Command.opcode, Output.append_assoc]

/-- A subscription is read from exactly its fields. -/
theorem completes_subscribeLayout (o : Opcode) :
    (subscribeLayout o).Completes (.byte o.code) .commandContent := by
  refine exact_double.bind fun starts => exact_double.bind fun ends => exact_string.bind fun element =>
    exact_byte.bind fun count => ?_
  refine ((exact_many exact_byte count.toNat).after _).bind_gives (gives_many byte _) ?_
  intro vars hvars
  refine Completes.pure ?_
  -- the number of variables that is written is the one that was read
  have hcount := count.toNat_lt
  have hfits : vars.length ≤ 255 := by omega
  have hbyte : vars.length.toUInt8 = count := by
    rw [hvars, Nat.toUInt8_eq, UInt8.ofNat_toNat]
  simp only [Output.commandContent, Output.commandLayout, Command.opcode, if_pos hfits, hbyte,
    Output.each_byte, Output.append_assoc]

/-- Behind its opcode the layout completes the content of a command. -/
theorem completes_layout (o : Opcode) : (layout o).Completes (.byte o.code) .commandContent := by
  -- within the control opcodes each has a layout of its own, and otherwise the category decides
  cases hkind : o.category with
  | get =>
    rw [layout_of_get hkind]
    exact completes_getLayout o
  | set =>
    rw [layout_of_set hkind]
    exact completes_setLayout o
  | subscribe =>
    rw [layout_of_subscribe hkind]
    exact completes_subscribeLayout o
  | control =>
    cases o with
    | getVersion => exact Completes.pure rfl
    | close => exact Completes.pure rfl
    | load => exact (exact_list exact_string).bind fun _ => Completes.pure rfl
    | simStep => exact exact_double.bind fun _ => Completes.pure rfl
    | sendFile =>
      refine exact_string.bind fun name => exact_string.bind fun content => Completes.pure ?_
      rw [Output.commandContent, Output.commandLayout, Command.opcode, Output.append_assoc]
    | _ => cases hkind
  | contextSubscribe => cases o <;> first | exact completes_throw _ _ | cases hkind
  | response => cases o <;> first | exact completes_throw _ _ | cases hkind

/-- A content that is read to its end is the content of the command. -/
theorem finishes_commandContent : commandContent.Finishes (.of []) .commandContent :=
  Completes.bind_finishes exact_opcode fun o =>
    (completes_layout o).bind_finishes fun _ => finishes_finished rfl

end Decoder

/-- The content of the unit is what is written of the command, and the command's opcode is of its kind. -/
structure PlacedUnit.Carries (u : PlacedUnit) (c : Command) : Prop where
  content_eq : Output.commandContent c = .of u.content
  wellKinded : c.WellKinded

/-- A command that was read took one unit, which carries it. -/
theorem Decoder.exists_of_command {bytes rest : Bytes} {c : Command}
    (h : command bytes = .ok c rest) : ∃ u : PlacedUnit, u.Carries c ∧ bytes = u.bytes ++ rest := by
  obtain ⟨u, hread, hbytes⟩ := exists_of_unitOf h
  obtain ⟨hkind, -⟩ := gives_command bytes c rest h
  refine ⟨u, ⟨?_, hkind⟩, hbytes⟩
  cases hcontent : u.content with
  | nil =>
    rw [hcontent] at hread
    cases hread
  | cons b content =>
    rw [hcontent] at hread
    exact finishes_commandContent.of_run hread

/-- Every command takes a byte. -/
theorem Decoder.shrinks_command : command.Shrinks := by
  intro bytes c rest h
  obtain ⟨u, -, rfl⟩ := exists_of_command h
  exact u.length_lt_append rest

/-- A payload that is not empty has a command. -/
theorem Command.ne_nil_of_parse {payload : Bytes} {commands : List Command} (hne : payload ≠ [])
    (h : Command.parse payload = .ok commands) : commands ≠ [] := by
  rintro rfl
  cases (Decoder.run_all_eq_ok_iff Decoder.shrinks_command).1 h
  exact hne rfl

namespace PlacedUnit

variable {u : PlacedUnit} {c : Command} {us : List PlacedUnit} {cs : List Command}

/-- A command that is carried can be sent. -/
theorem Carries.sendable (h : u.Carries c) : c.Sendable where
  wellKinded := h.wellKinded
  countsFit := Output.error?_commandContent_eq_none.1 (by rw [h.content_eq]; rfl)
  contentFits := by
    rw [h.content_eq]
    exact u.length_content_le

/-- A command that is carried is written with its length in the shortest form. -/
theorem Carries.bytes_command (h : u.Carries c) : (Output.command c).bytes = unit u.content := by
  rw [Output.bytes_command h.sendable.countsFit, h.content_eq, Output.bytes_of]

/-- Commands that are carried can be sent. -/
theorem sendable_of_carries (h : List.Forall₂ Carries us cs) : ∀ c ∈ cs, c.Sendable := by
  induction h with
  | nil => exact List.forall_mem_nil _
  | cons hc _ ih => exact List.forall_mem_cons.2 ⟨hc.sendable, ih⟩

/-- Commands are written as the contents that carry them, in the shortest form. -/
theorem flatMap_command_of_carries (h : List.Forall₂ Carries us cs) :
    (cs.flatMap fun c => (Output.command c).bytes) = us.flatMap fun u => unit u.content := by
  induction h with
  | nil => rfl
  | cons hc _ ih => rw [List.flatMap_cons, List.flatMap_cons, hc.bytes_command, ih]

end PlacedUnit

/-- A payload that is parsed is cut in one way into units that carry the commands. The commands can be
encoded, in no more bytes than they came in, and are parsed from these again; the bytes are the same if
and only if every unit had the shortest form. -/
theorem Command.exists_units_of_parse {payload : Bytes} {cs : List Command}
    (h : Command.parse payload = .ok cs) :
    ∃ us : List PlacedUnit, (∀ cut, payload = cut.flatMap PlacedUnit.bytes ↔ cut = us) ∧
      List.Forall₂ PlacedUnit.Carries us cs ∧
      ∃ again, Command.encodeAll cs = .ok again ∧ again.length ≤ payload.length ∧
        Command.parse again = .ok cs ∧ (again = payload ↔ ∀ u ∈ us, u.IsShortest) := by
  have hitems := (Decoder.run_all_eq_ok_iff Decoder.shrinks_command).1 h
  obtain ⟨us, hcarries, rfl⟩ := hitems.exists_pieces fun _ _ _ => Decoder.exists_of_command
  have hsendable := PlacedUnit.sendable_of_carries hcarries
  have hwritten := PlacedUnit.flatMap_command_of_carries hcarries
  have hencode := Command.encodeAll_of_countsFit fun c hc => (hsendable c hc).countsFit
  have hagain := Decoder.all_command_flatMap hsendable
  rw [hwritten] at hencode hagain
  refine ⟨us, fun cut => ⟨fun hcut => (PlacedUnit.flatMap_bytes_injective hcut).symm, ?_⟩, hcarries, _,
    hencode, PlacedUnit.length_flatMap_unit_le, ?_, PlacedUnit.flatMap_unit_eq_iff⟩
  · rintro rfl
    rfl
  · rw [Command.parse, Decoder.run, hagain]
    rfl

/-- A payload with a command in the longer form, though it is short enough for the shorter one. -/
theorem Command.exists_units_of_parse_batch :
    let payload : Bytes := [0, 0, 0, 0, 12, 0xAE, 0x40, 0, 0, 0, 1, 0x31, 2, 0x7F]
    let cs : List Command := [.get .getPerson 0x40 "1", .close]
    Command.parse payload = .ok cs ∧
      ∃ us : List PlacedUnit, (∀ cut, payload = cut.flatMap PlacedUnit.bytes ↔ cut = us) ∧
        List.Forall₂ PlacedUnit.Carries us cs ∧
        ∃ again, Command.encodeAll cs = .ok again ∧ again.length ≤ payload.length ∧
          Command.parse again = .ok cs ∧ (again = payload ↔ ∀ u ∈ us, u.IsShortest) := by
  intro payload cs
  have hparse : Command.parse payload = .ok cs := rfl
  exact ⟨hparse, Command.exists_units_of_parse hparse⟩

end PedestrianControl
