import PedestrianControl.Proofs.Wire.TypedValue
import PedestrianControl.Proofs.Wire.Unit

/-!
# Commands are read back

Every list of sendable commands can be encoded, and parsing the payload gives the same commands in the
same order with nothing left over (`Command.parse_encodeAll_commands`). A command is sendable if its opcode
is of its own kind, its lists fit their counts of one byte, and its content fits the length of a unit.
The layouts are read back field by field; the units follow from `Decoder.all_flatMap`.
-/

namespace PedestrianControl

namespace Command

/-- Lists that are counted in one byte have at most 255 elements: the polygons of a value, at any depth,
and the variables of a subscription. -/
def CountsFit : Command → Prop
  | set _ _ _ value => value.PolygonsFit
  | subscribe s => s.vars.length ≤ 255
  | _ => True

instance (c : Command) : Decidable c.CountsFit :=
  match c with
  | set _ _ _ value => inferInstanceAs (Decidable value.PolygonsFit)
  | subscribe s => inferInstanceAs (Decidable (s.vars.length ≤ 255))
  | getVersion | load _ | simStep _ | sendFile .. | close | get .. => inferInstanceAs (Decidable True)

/-- The variables of a subscription are few enough for their count. -/
def VarsFit (c : Command) : Prop := ∀ s, c = .subscribe s → s.vars.length ≤ 255

/-- Where all lists fit their counts, the variables of a subscription do. -/
theorem CountsFit.varsFit {c : Command} (h : c.CountsFit) : c.VarsFit := by
  rintro s rfl
  exact h

/-- A command that a unit can carry and that a reader takes for what it is. -/
structure Sendable (c : Command) : Prop where
  wellKinded : c.WellKinded
  countsFit : c.CountsFit
  contentFits : (Output.commandContent c).bytes.length ≤ unitLimit

instance (c : Command) : Decidable c.Sendable :=
  decidable_of_iff
    (c.WellKinded ∧ c.CountsFit ∧ (Output.commandContent c).bytes.length ≤ unitLimit)
    ⟨fun ⟨hkind, hcounts, hcontent⟩ => ⟨hkind, hcounts, hcontent⟩,
      fun ⟨hkind, hcounts, hcontent⟩ => ⟨hkind, hcounts, hcontent⟩⟩

end Command

namespace Output

/-- Bytes put out one by one are the bytes. -/
theorem each_byte (bs : List UInt8) : each byte bs = of bs := by
  induction bs with
  | nil => rfl
  | cons b rest ih => rw [each, ih]; rfl

/-- Writing a command fails only on a list too long for its count of one byte. -/
theorem error?_commandContent_eq_none {c : Command} :
    (commandContent c).error? = none ↔ c.CountsFit := by
  rw [commandContent, error?_append_eq_none, and_iff_right (show (byte _).error? = none from rfl)]
  cases c with
  | set o var element value =>
    have hfields : (byte var ++ string element).error? = none := rfl
    rw [commandLayout, error?_append_eq_none, and_iff_right hfields, error?_typed_eq_none,
      Command.CountsFit]
  | subscribe s =>
    rw [commandLayout, Command.CountsFit]
    by_cases h : s.vars.length ≤ 255
    · rw [if_pos h]
      exact iff_of_true rfl h
    · rw [if_neg h]
      exact iff_of_false (Option.some_ne_none _) h
  | load args => exact iff_of_true (error?_stringList args) trivial
  | _ => exact iff_of_true rfl trivial

/-- Writing a command fails only on a list too long for its count of one byte. -/
theorem error?_command_eq_none {c : Command} : (command c).error? = none ↔ c.CountsFit := by
  rw [command, error?_enclose, error?_commandContent_eq_none]

/-- The bytes of a command that can be written are a unit around its content. -/
theorem bytes_command {c : Command} (h : c.CountsFit) :
    (command c).bytes = unit (commandContent c).bytes :=
  bytes_enclose (error?_commandContent_eq_none.2 h)

end Output

namespace Decoder

/-- An opcode is read back from its code. -/
theorem reads_opcode (o : Opcode) : opcode.Reads (.byte o.code) o :=
  reads_coded (by rw [Opcode.ofCode?_code])

/-! ## Layouts -/

/-- A get is read by the layout of gets. -/
theorem layout_of_get {o : Opcode} (h : o.category = .get) : layout o = getLayout o := by
  cases o <;> first | rfl | cases h

/-- A set is read by the layout of sets. -/
theorem layout_of_set {o : Opcode} (h : o.category = .set) : layout o = setLayout o := by
  cases o <;> first | rfl | cases h

/-- A subscription is read by the layout of subscriptions. -/
theorem layout_of_subscribe {o : Opcode} (h : o.category = .subscribe) :
    layout o = subscribeLayout o := by
  cases o <;> first | rfl | cases h

/-- The fields of a get are read back. -/
theorem reads_getLayout (o : Opcode) (var : UInt8) (element : String) :
    (getLayout o).Reads (.byte var ++ .string element) (.get o var element) :=
  (reads_byte var).bind (reads_string element).bind_pure

/-- The fields of a set are read back. -/
theorem reads_setLayout (o : Opcode) (var : UInt8) (element : String) (value : TypedValue) :
    (setLayout o).Reads (.byte var ++ .string element ++ .typed value)
      (.set o var element value) := by
  rw [Output.append_assoc]
  exact (reads_byte var).bind ((reads_string element).bind (reads_typed value).bind_pure)

/-- The fields of a subscription are read back. -/
theorem reads_subscribeLayout (s : Subscription) :
    (subscribeLayout s.opcode).Reads (Output.commandLayout (.subscribe s)) (.subscribe s) := by
  intro herr
  have hvars : s.vars.length ≤ 255 :=
    Output.error?_commandContent_eq_none.1 (Output.error?_append_eq_none.2 ⟨rfl, herr⟩)
  have hlist : (many s.vars.length byte).Reads (.of s.vars) s.vars := by
    rw [← Output.each_byte]
    exact reads_many fun b _ => reads_byte b
  rw [Output.commandLayout, if_pos hvars] at herr ⊢
  simp only [Output.append_assoc] at herr ⊢
  exact (reads_double s.starts).bind ((reads_double s.ends).bind ((reads_string s.element).bind
    (Reads.bind_byte hvars (f := fun count => many count byte >>= fun vars =>
      pure (Command.subscribe ⟨s.opcode, s.starts, s.ends, s.element, vars⟩)) hlist.bind_pure))) herr

/-- What follows the opcode of a command is read back, if the opcode is of the command's own kind. -/
theorem reads_layout {c : Command} (h : c.WellKinded) :
    (layout c.opcode).Reads (.commandLayout c) c := by
  -- a command's own kind picks the branch that its opcode's category picks
  cases c with
  | getVersion => exact Reads.pure _
  | close => exact Reads.pure _
  | load args => exact (reads_stringList args).bind_pure
  | simStep target => exact (reads_double target).bind_pure
  | sendFile name content => exact (reads_string name).bind (reads_string content).bind_pure
  | get o var element =>
    have hkind : o.category = .get := h
    rw [Command.opcode, layout_of_get hkind]
    exact reads_getLayout o var element
  | set o var element value =>
    have hkind : o.category = .set := h
    rw [Command.opcode, layout_of_set hkind]
    exact reads_setLayout o var element value
  | subscribe s =>
    have hkind : s.opcode.category = .subscribe := h
    rw [Command.opcode, layout_of_subscribe hkind]
    exact reads_subscribeLayout s

/-! ## Units and payloads -/

/-- The content of a command is read back to its end. -/
theorem ends_commandContent {c : Command} (h : c.WellKinded) :
    commandContent.Ends (.commandContent c) c :=
  (reads_opcode c.opcode).bind_ends (reads_layout h).bind_finished

/-- A command is read back from its unit. -/
theorem reads_command {c : Command} (h : c.WellKinded) : command.Reads (.command c) c := by
  refine reads_unitOf fun herr hlen => ?_
  exact (ends_commandContent h).run herr hlen

end Decoder

/-- The payload of sendable commands is one unit after the other. -/
theorem Command.encodeAll_of_countsFit {cs : List Command} (h : ∀ c ∈ cs, c.CountsFit) :
    Command.encodeAll cs = .ok (cs.flatMap fun c => (Output.command c).bytes) := by
  have herr : ∀ c ∈ cs, (Output.command c).error? = none :=
    fun c hc => Output.error?_command_eq_none.2 (h c hc)
  exact Output.result_eq_ok_iff.2 ⟨Output.error?_each_eq_none.2 herr, Output.bytes_each herr⟩

/-- Sendable commands are read back from the units that they are written as. -/
theorem Decoder.all_command_flatMap {cs : List Command} (h : ∀ c ∈ cs, c.Sendable) :
    Decoder.all Decoder.command (cs.flatMap fun c => (Output.command c).bytes) = .ok cs [] := by
  refine Decoder.all_flatMap (fun _ => True) trivial (fun c hc rest _ => ⟨?_, trivial⟩) fun c hc => ?_
  · refine Decoder.reads_command (h c hc).wellKinded
      (Output.error?_command_eq_none.2 (h c hc).countsFit) ?_ rest
    rw [Output.bytes_command (h c hc).countsFit]
    exact length_unit_lt_iff.2 (h c hc).contentFits
  · rw [Output.bytes_command (h c hc).countsFit]
    exact unit_ne_nil _

/-- Only commands whose lists fit their counts can be encoded. -/
theorem Command.countsFit_of_encodeAll {cs : List Command} {payload : Bytes}
    (hencode : Command.encodeAll cs = .ok payload) : ∀ c ∈ cs, c.CountsFit := by
  obtain ⟨herr, -⟩ := Output.result_eq_ok_iff.1 hencode
  exact fun c hc => Output.error?_command_eq_none.1 (Output.error?_each_eq_none.1 herr c hc)

/-- Commands whose payload is not too long for counts are sendable, if their kinds are right. -/
theorem Command.sendable_of_encodeAll {cs : List Command} (h : ∀ c ∈ cs, c.WellKinded)
    {payload : Bytes} (hencode : Command.encodeAll cs = .ok payload)
    (hlen : payload.length < 2 ^ 31) : ∀ c ∈ cs, c.Sendable := by
  intro c hc
  have hcounts := Command.countsFit_of_encodeAll hencode c hc
  obtain ⟨herr, rfl⟩ := Output.result_eq_ok_iff.1 hencode
  refine ⟨h c hc, hcounts, ?_⟩
  have hunit := Nat.lt_of_le_of_lt (Output.length_bytes_le_of_mem herr hc) hlen
  rw [Output.bytes_command hcounts] at hunit
  exact length_unit_lt_iff.1 hunit

/-- Every command takes a byte of the payload. -/
theorem Command.length_le_of_encodeAll {cs : List Command} {payload : Bytes}
    (hencode : Command.encodeAll cs = .ok payload) : cs.length ≤ payload.length := by
  have hcounts := Command.countsFit_of_encodeAll hencode
  obtain ⟨herr, rfl⟩ := Output.result_eq_ok_iff.1 hencode
  refine Output.length_le_length_each herr fun c hc => ?_
  rw [Output.bytes_command (hcounts c hc)]
  exact unit_ne_nil _

/-- What commands were encoded as is parsed as these commands. -/
theorem Command.parse_of_encodeAll {cs : List Command} (h : ∀ c ∈ cs, c.WellKinded) {payload : Bytes}
    (hencode : Command.encodeAll cs = .ok payload) (hlen : payload.length < 2 ^ 31) :
    Command.parse payload = .ok cs := by
  have hsendable := Command.sendable_of_encodeAll h hencode hlen
  rw [Command.encodeAll_of_countsFit fun c hc => (hsendable c hc).countsFit] at hencode
  cases hencode
  rw [Command.parse, Decoder.run, Decoder.all_command_flatMap hsendable]
  rfl

/-- Sendable commands can be encoded, and their payload is parsed as the same commands in the same order,
to its last byte. -/
theorem Command.parse_encodeAll_commands {cs : List Command} (h : ∀ c ∈ cs, c.Sendable) :
    ∃ payload, Command.encodeAll cs = .ok payload ∧ Command.parse payload = .ok cs ∧
      Decoder.all Decoder.command payload = .ok cs [] := by
  have hread := Decoder.all_command_flatMap h
  refine ⟨_, Command.encodeAll_of_countsFit fun c hc => (h c hc).countsFit, ?_, hread⟩
  rw [Command.parse, Decoder.run, hread]
  rfl

/-- A list, a compound with a polygon in it, an id too long for the shorter form, and the end of the session. -/
theorem Command.parse_encodeAll_batch :
    let batch := [.load ["a", ""], .set .setPerson 0x42 "1" (.compound [.polygon [0], .string "ü"]),
      .get .getPerson 0x40 (String.ofList (List.replicate 300 'x')), .close]
    (∀ c ∈ batch, Command.Sendable c) ∧ ∃ payload, Command.encodeAll batch = .ok payload ∧
      Command.parse payload = .ok batch ∧ Decoder.all Decoder.command payload = .ok batch [] := by
  intro batch
  have h : ∀ c ∈ batch, Command.Sendable c := by decide +kernel
  exact ⟨h, Command.parse_encodeAll_commands h⟩

end PedestrianControl
