import PedestrianControl.Proofs.Wire.Command

/-!
# What comes over the wire

`Gives d P` says that whatever the decoder `d` reads successfully has the property `P`; it passes through
a `do` block from field to field. Of commands it says two things that their type does not: the opcode is
of the command's own kind, and a subscription has no more variables than its count of one byte can tell
(`Command.of_parse`). Nothing is assumed of the bytes.
-/

namespace PedestrianControl

/-! ## Properties of all that a decoder gives -/

namespace Decoder

variable {α β : Type} {P : α → Prop} {Q : β → Prop}

/-- A successful read has a value with the property. -/
def Gives (d : Decoder α) (P : α → Prop) : Prop :=
  ∀ bytes a rest, d bytes = .ok a rest → P a

theorem gives_true (d : Decoder α) : d.Gives fun _ => True := fun _ _ _ _ => trivial

/-- What has the property is given with it. -/
theorem Gives.pure {a : α} (h : P a) : (Pure.pure a : Decoder α).Gives P := by
  intro bytes b rest hb
  cases hb
  exact h

/-- An error gives nothing. -/
theorem gives_throw (e : Error) : (throw e : Decoder α).Gives P := by
  intro bytes a rest ha
  cases ha

/-- What comes first may be used for what comes next. -/
theorem Gives.bind {d : Decoder α} {f : α → Decoder β} (hd : d.Gives P)
    (hf : ∀ a, P a → (f a).Gives Q) : (d >>= f).Gives Q := by
  intro bytes b rest hb
  obtain ⟨a, between, ha, hb⟩ := eq_ok_of_bind_eq_ok hb
  exact hf a (hd bytes a between ha) between b rest hb

/-- A field that the property does not depend on. -/
theorem gives_bind {d : Decoder α} {f : α → Decoder β} (hf : ∀ a, (f a).Gives Q) :
    (d >>= f).Gives Q :=
  (gives_true d).bind fun a _ => hf a

/-- What is read by a reader of its own is read, whatever is left. -/
theorem exists_eq_ok_of_run {d : Decoder α} {bytes : Bytes} {a : α} (h : d.run bytes = .ok a) :
    ∃ rest, d bytes = .ok a rest := by
  rw [run] at h
  cases hd : d bytes with
  | error e left =>
    rw [hd] at h
    cases h
  | ok b left =>
    rw [hd] at h
    cases h
    exact ⟨left, rfl⟩

/-- What a reader of its own accepts has the property. -/
theorem Gives.of_run {d : Decoder α} (h : d.Gives P) {bytes : Bytes} {a : α}
    (ha : d.run bytes = .ok a) : P a := by
  obtain ⟨rest, hd⟩ := exists_eq_ok_of_run ha
  exact h bytes a rest hd

/-- One element more is that element and then the others, as one read after another. -/
theorem many_succ_eq_bind (item : Decoder α) (n : Nat) :
    many (n + 1) item
      = item >>= fun a => many n item >>= fun others => Pure.pure (a :: others) := by
  funext bytes
  rw [many_succ]
  cases ha : item bytes with
  | error e left => rw [bind_of_error ha]
  | ok a left =>
    rw [bind_of_ok ha]
    dsimp only
    cases hmany : many n item left with
    | error e left' => rw [bind_of_error hmany]
    | ok others left' =>
      rw [bind_of_ok hmany]
      rfl

/-- So many elements are so many. -/
theorem gives_many (item : Decoder α) (n : Nat) :
    (many n item).Gives fun as => as.length = n := by
  induction n with
  | zero => exact Gives.pure rfl
  | succ n ih =>
    rw [many_succ_eq_bind]
    exact gives_bind fun a => ih.bind fun others hothers => Gives.pure (congrArg (· + 1) hothers)

/-- So many elements have each what an element has. -/
theorem Gives.many {item : Decoder α} (h : item.Gives P) (n : Nat) :
    (many n item).Gives fun as => ∀ a ∈ as, P a := by
  induction n with
  | zero => exact Gives.pure (List.forall_mem_nil P)
  | succ n ih =>
    rw [many_succ_eq_bind]
    exact h.bind fun a ha => ih.bind fun others hothers =>
      Gives.pure (List.forall_mem_cons.2 ⟨ha, hothers⟩)

/-- A content with the property is given with it from its unit. -/
theorem gives_unitOf {read : Bytes → Except Error α} (h : ∀ content a, read content = .ok a → P a) :
    (unitOf read).Gives P := by
  refine gives_bind fun content => ?_
  cases hread : read content with
  | error e => exact gives_throw e
  | ok a => exact Gives.pure (h content a hread)

/-- An item, if there is one, has what an item has. -/
theorem Gives.next? {item : Decoder α} (h : item.Gives P) :
    (next? item).Gives fun found => ∀ a ∈ found, P a := by
  intro bytes found rest hfound
  cases bytes with
  | nil =>
    cases hfound
    intro a ha
    cases ha
  | cons b bytes =>
    have hsome : (item >>= fun a => Pure.pure (some a)).Gives fun found => ∀ a ∈ found, P a :=
      h.bind fun a ha => Gives.pure fun b hb => by
        cases hb
        exact ha
    exact hsome (b :: bytes) found rest hfound

/-- Items read after others have what an item has, if those others have it. -/
theorem Gives.allAfter {item : Decoder α} (h : item.Gives P) {done : List α} (hdone : ∀ a ∈ done, P a)
    (limit : Nat) : (allAfter item done limit).Gives fun as => ∀ a ∈ as, P a := by
  induction limit generalizing done with
  | zero => exact Gives.pure fun a ha => hdone a (List.mem_reverse.1 ha)
  | succ limit ih =>
    refine h.next?.bind fun found hfound => ?_
    cases found with
    | none => exact Gives.pure fun a ha => hdone a (List.mem_reverse.1 ha)
    | some a => exact ih (List.forall_mem_cons.2 ⟨hfound a rfl, hdone⟩)

/-- All items of a payload have what each of them has. -/
theorem Gives.all {item : Decoder α} (h : item.Gives P) : (all item).Gives fun as => ∀ a ∈ as, P a :=
  fun bytes as rest has => h.allAfter (List.forall_mem_nil P) bytes.length bytes as rest has

/-! ## Commands -/

/-- What is read as a get is one, with its variables within their count. -/
theorem gives_getLayout {o : Opcode} (h : o.category = .get) :
    (getLayout o).Gives fun c => c.WellKinded ∧ c.VarsFit :=
  gives_bind fun _ => gives_bind fun _ => Gives.pure ⟨h, nofun⟩

/-- What is read as a set is one, with its variables within their count. -/
theorem gives_setLayout {o : Opcode} (h : o.category = .set) :
    (setLayout o).Gives fun c => c.WellKinded ∧ c.VarsFit :=
  gives_bind fun _ => gives_bind fun _ => gives_bind fun _ => Gives.pure ⟨h, nofun⟩

/-- What is read as a subscription is one, with its variables within their count. -/
theorem gives_subscribeLayout {o : Opcode} (h : o.category = .subscribe) :
    (subscribeLayout o).Gives fun c => c.WellKinded ∧ c.VarsFit := by
  refine gives_bind fun _ => gives_bind fun _ => gives_bind fun _ => gives_bind fun count => ?_
  refine (gives_many byte count.toNat).bind fun vars hvars => Gives.pure ⟨h, ?_⟩
  rintro s ⟨⟩
  have hcount := count.toNat_lt
  show vars.length ≤ 255
  omega

/-- Whatever layout an opcode selects, the command read has the opcode's category and its variables within their
count. -/
theorem gives_layout (o : Opcode) :
    (layout o).Gives fun c => c.WellKinded ∧ c.VarsFit := by
  -- within the control opcodes each has a layout of its own, and otherwise the category decides
  cases hkind : o.category with
  | get =>
    rw [layout_of_get hkind]
    exact gives_getLayout hkind
  | set =>
    rw [layout_of_set hkind]
    exact gives_setLayout hkind
  | subscribe =>
    rw [layout_of_subscribe hkind]
    exact gives_subscribeLayout hkind
  | control =>
    cases o with
    | getVersion => exact Gives.pure ⟨rfl, nofun⟩
    | close => exact Gives.pure ⟨rfl, nofun⟩
    | load => exact gives_bind fun _ => Gives.pure ⟨rfl, nofun⟩
    | simStep => exact gives_bind fun _ => Gives.pure ⟨rfl, nofun⟩
    | sendFile => exact gives_bind fun _ => gives_bind fun _ => Gives.pure ⟨rfl, nofun⟩
    | _ => cases hkind
  | contextSubscribe => cases o <;> first | exact gives_throw _ | cases hkind
  | response => cases o <;> first | exact gives_throw _ | cases hkind

/-- A command that is read is of its own kind, with its variables within their count. -/
theorem gives_command : command.Gives fun c => c.WellKinded ∧ c.VarsFit := by
  refine gives_unitOf fun content c hread => ?_
  have hcontent : commandContent.Gives fun c => c.WellKinded ∧ c.VarsFit :=
    gives_bind fun o => (gives_layout o).bind fun c hc => gives_bind fun _ => Gives.pure hc
  cases content with
  | nil => cases hread
  | cons b content => exact hcontent.of_run hread

end Decoder

/-- Every command of a payload is of its own kind and asks for no more variables than fit a count. -/
theorem Command.of_parse {payload : Bytes} {cs : List Command} (h : Command.parse payload = .ok cs) :
    ∀ c ∈ cs, c.WellKinded ∧ c.VarsFit :=
  Decoder.gives_command.all.of_run h

end PedestrianControl
