import PedestrianControl.Proofs.Wire.Accepted

/-!
# Payloads put together and cut off

A command is read from its own unit, whatever follows it (`Decoder.local_command`), and no unit is the beginning of
another. So a payload that is parsed may stand in front of any other one, which is then read or refused as it is
alone. And a payload that is cut off gives the commands before the cut if this is between two units, and none if it is
inside one (`Command.parse_append_and_cut`).

Reading up to the end has two outcomes, and each is told without the limit and the items kept aside: `Items` where it
succeeds, `Breaks` where it fails.
-/

namespace PedestrianControl

namespace Decoder

variable {α : Type} {item : Decoder α}

/-! ## Items up to one that fails -/

/-- The items are read one after the other, up to one that fails with the error. -/
inductive Breaks (item : Decoder α) : Bytes → Error → Prop
  | here {bytes rest : Bytes} {e : Error} (hne : bytes ≠ []) (hread : item bytes = .error e rest) :
      Breaks item bytes e
  | later {bytes rest : Bytes} {a : α} {e : Error} (hread : item bytes = .ok a rest)
      (hrest : Breaks item rest e) : Breaks item bytes e

/-- An item that fails ends the reading, whatever was read before it. -/
theorem allAfter_of_error {bytes rest : Bytes} {e : Error} (hne : bytes ≠ [])
    (h : item bytes = .error e rest) (done : List α) (limit : Nat) :
    allAfter item done (limit + 1) bytes = .error e rest := by
  rw [allAfter, bind_of_error (next?_of_error hne h)]

/-- Reading after others, with a limit that is no hindrance, fails exactly where one of the items does. -/
theorem allAfter_eq_error_iff (h : item.Shrinks) {limit : Nat} {done : List α} {bytes : Bytes} {e : Error}
    (hlimit : bytes.length ≤ limit) :
    (∃ rest, allAfter item done limit bytes = .error e rest) ↔ Breaks item bytes e := by
  induction limit generalizing done bytes with
  | zero =>
    obtain rfl := List.eq_nil_of_length_eq_zero (Nat.le_zero.1 hlimit)
    constructor
    · rintro ⟨rest, hread⟩
      cases hread
    · intro hbreaks
      cases hbreaks with
      | here hne _ => exact absurd rfl hne
      | later hread _ => exact absurd rfl (h.ne_nil hread)
  | succ limit ih =>
    constructor
    · rintro ⟨rest, hread⟩
      by_cases hne : bytes = []
      · subst hne
        cases hread
      cases hitem : item bytes with
      | error e' left =>
        rw [allAfter_of_error hne hitem] at hread
        cases hread
        exact .here hne hitem
      | ok a left =>
        have hlt := h _ _ _ hitem
        rw [allAfter_of_ok hne hitem] at hread
        exact .later hitem ((ih (by omega)).1 ⟨rest, hread⟩)
    · intro hbreaks
      cases hbreaks with
      | here hne hread => exact ⟨_, allAfter_of_error hne hread done limit⟩
      | @later _ left a _ hread hrest =>
        have hlt := h _ _ _ hread
        rw [allAfter_of_ok (h.ne_nil hread) hread]
        exact (ih (by omega)).2 hrest

/-- A reader of its own fails exactly where one of the items does. -/
theorem run_all_eq_error_iff (h : item.Shrinks) {bytes : Bytes} {e : Error} :
    (all item).run bytes = .error e ↔ Breaks item bytes e := by
  have hiff : (∃ rest, allAfter item [] bytes.length bytes = .error e rest) ↔ Breaks item bytes e :=
    allAfter_eq_error_iff h (Nat.le_refl _)
  rw [← hiff, run]
  show Decoded.outcome (allAfter item [] bytes.length bytes) = .error e ↔ _
  cases allAfter item [] bytes.length bytes with
  | ok as rest => simp [Decoded.outcome]
  | error e' rest => simp [Decoded.outcome]

/-! ## Items in front of others -/

/-- An item that was read is read as the same, whatever follows. -/
def Local (item : Decoder α) : Prop :=
  ∀ bytes a rest, item bytes = .ok a rest → ∀ more, item (bytes ++ more) = .ok a (rest ++ more)

/-- Items in front of other items are items of the bytes together. -/
theorem Items.append (hlocal : item.Local) {bytes more : Bytes} {as others : List α}
    (h : Items item bytes as) (hmore : Items item more others) :
    Items item (bytes ++ more) (as ++ others) := by
  induction h with
  | nil => exact hmore
  | cons hread _ ih => exact .cons (hlocal _ _ _ hread more) ih

/-- Items in front of one that fails lead to the same error. -/
theorem Items.append_breaks (hlocal : item.Local) {bytes more : Bytes} {as : List α} {e : Error}
    (h : Items item bytes as) (hmore : Breaks item more e) : Breaks item (bytes ++ more) e := by
  induction h with
  | nil => exact hmore
  | cons hread _ ih => exact .later (hlocal _ _ _ hread more) ih

/-- Behind items that are read, further ones are read or refused as they are alone. -/
theorem run_all_append (hshrinks : item.Shrinks) (hlocal : item.Local) {bytes : Bytes} {as : List α}
    (h : (all item).run bytes = .ok as) (more : Bytes) :
    (all item).run (bytes ++ more) = (as ++ ·) <$> (all item).run more := by
  have hitems := (run_all_eq_ok_iff hshrinks).1 h
  cases hmore : (all item).run more with
  | ok others =>
    exact (run_all_eq_ok_iff hshrinks).2 (hitems.append hlocal ((run_all_eq_ok_iff hshrinks).1 hmore))
  | error e =>
    exact (run_all_eq_error_iff hshrinks).2
      (hitems.append_breaks hlocal ((run_all_eq_error_iff hshrinks).1 hmore))

end Decoder

/-! ## Units in front of others -/

namespace PlacedUnit

variable {u : PlacedUnit} {c : Command} {us vs : List PlacedUnit} {cs : List Command}

/-- A run of units that begins another, byte for byte, consists of its first units. -/
theorem prefix_of_flatMap_bytes (h : us.flatMap bytes <+: vs.flatMap bytes) : us <+: vs := by
  induction us generalizing vs with
  | nil => exact List.nil_prefix
  | cons u us ih =>
    cases vs with
    | nil =>
      rw [List.flatMap_nil, List.prefix_nil, List.flatMap_cons] at h
      exact absurd (List.append_eq_nil_iff.1 h).1 u.bytes_ne_nil
    | cons v vs =>
      obtain ⟨rest, h⟩ := h
      rw [List.flatMap_cons, List.flatMap_cons, List.append_assoc] at h
      obtain ⟨rfl, hrest⟩ := eq_of_bytes_append h
      exact (List.prefix_cons_inj u).2 (ih ⟨rest, hrest⟩)

/-- A unit is read as the command that it carries, in either form of its length. -/
theorem Carries.takes (h : u.Carries c) : Decoder.command.Takes u.bytes c := by
  have hcontent : (Output.commandContent c).bytes = u.content := by
    rw [h.content_eq, Output.bytes_of]
  refine Decoder.takes_unitOf u.takes_bytes ?_
  rw [← hcontent]
  exact (Decoder.ends_commandContent h.wellKinded).run
    (Output.error?_commandContent_eq_none.2 h.sendable.countsFit) h.sendable.contentFits

/-- The commands that units carry are the items of their bytes. -/
theorem items_of_carries (h : List.Forall₂ Carries us cs) :
    Decoder.Items Decoder.command (us.flatMap bytes) cs := by
  induction h with
  | nil => exact .nil
  | cons hc _ ih => exact .cons (hc.takes _) ih

end PlacedUnit

/-- Commands are read from their own units, whatever follows. -/
theorem Decoder.local_command : command.Local := by
  intro bytes c rest h more
  obtain ⟨u, hcarries, rfl⟩ := exists_of_command h
  rw [List.append_assoc]
  exact hcarries.takes _

/-- The payloads that are parsed are the runs of units that carry commands. -/
theorem Command.parse_eq_ok_iff {payload : Bytes} {cs : List Command} :
    Command.parse payload = .ok cs ↔
      ∃ us, List.Forall₂ PlacedUnit.Carries us cs ∧ payload = us.flatMap PlacedUnit.bytes := by
  rw [Command.parse, Decoder.run_all_eq_ok_iff Decoder.shrinks_command]
  constructor
  · exact fun h => h.exists_pieces fun _ _ _ => Decoder.exists_of_command
  · rintro ⟨us, hcarries, rfl⟩
    exact PlacedUnit.items_of_carries hcarries

/-- What follows a payload that is parsed is parsed, or refused with the same error, as if it stood alone. And what
begins such a payload is parsed as its first commands if it ends where one of the units does, and otherwise refused. -/
theorem Command.parse_append_and_cut {payload : Bytes} {cs : List Command}
    (h : Command.parse payload = .ok cs) :
    (∀ more, Command.parse (payload ++ more) = (cs ++ ·) <$> Command.parse more) ∧
      ∃ us : List PlacedUnit, (∀ cut, payload = cut.flatMap PlacedUnit.bytes ↔ cut = us) ∧
        us.length = cs.length ∧
        ∀ start, start <+: payload →
          (∀ n, start = (us.take n).flatMap PlacedUnit.bytes → Command.parse start = .ok (cs.take n)) ∧
            ((∀ n, start ≠ (us.take n).flatMap PlacedUnit.bytes) →
              ∃ e, Command.parse start = .error e) := by
  obtain ⟨us, hcarries, rfl⟩ := Command.parse_eq_ok_iff.1 h
  refine ⟨Decoder.run_all_append Decoder.shrinks_command Decoder.local_command h, us, fun cut => ?_,
    hcarries.length_eq, fun start hstart => ⟨?between, fun hinside => ?inside⟩⟩
  · exact ⟨fun hcut => (PlacedUnit.flatMap_bytes_injective hcut).symm, fun hcut => by rw [hcut]⟩
  case between =>
    rintro n rfl
    exact Command.parse_eq_ok_iff.2 ⟨us.take n, List.forall₂_take n hcarries, rfl⟩
  case inside =>
    cases hparse : Command.parse start with
    | error e => exact ⟨e, rfl⟩
    | ok ds =>
      -- the units of what was parsed would be the first of the payload's
      obtain ⟨vs, -, rfl⟩ := Command.parse_eq_ok_iff.1 hparse
      have hvs := PlacedUnit.prefix_of_flatMap_bytes hstart
      exact absurd (congrArg _ (List.prefix_iff_eq_take.1 hvs)) (hinside vs.length)

/-- The first unit is longer than it need be. Cut off behind it, the payload still gives the get, and cut off inside
its length it gives nothing. An empty unit is refused behind the payload as it is alone. -/
theorem Command.parse_append_and_cut_batch :
    let payload : Bytes := [0, 0, 0, 0, 12, 0xAE, 0x40, 0, 0, 0, 1, 0x31, 2, 0x7F]
    let cs : List Command := [.get .getPerson 0x40 "1", .close]
    Command.parse payload = .ok cs ∧
      Command.parse (payload ++ [1]) = .error (.protocol .emptyCommand) ∧
      Command.parse (payload.take 12) = .ok (cs.take 1) ∧
      ∃ e, Command.parse (payload.take 3) = .error e := by
  intro payload cs
  have hparse : Command.parse payload = .ok cs := rfl
  obtain ⟨happend, us, hunits, -, hcut⟩ := Command.parse_append_and_cut hparse
  obtain rfl := (hunits [⟨.extended, [0xAE, 0x40, 0, 0, 0, 1, 0x31], by decide⟩,
    ⟨.short, [0x7F], by decide⟩]).1 rfl
  refine ⟨hparse, happend [1], (hcut _ (List.take_prefix 12 payload)).1 1 rfl,
    (hcut _ (List.take_prefix 3 payload)).2 fun n hn => ?_⟩
  -- the units end behind 0, 12 and 14 bytes
  have hlength := congrArg List.length hn
  rcases n with _ | _ | n <;> simp [payload, PlacedUnit.length_bytes, LengthForm.header, extendedHeader] at hlength

end PedestrianControl
