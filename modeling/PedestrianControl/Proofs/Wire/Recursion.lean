import Mathlib.Logic.Function.Iterate
import PedestrianControl.Proofs.Wire.AcceptedResponse

/-!
# Reading comes to an end

A typed value is read by a recursion, since compounds hold typed values, and a payload by a loop; neither has a
bound of its own. Each round takes a byte (`Shrinks`), so rounds that are nested or follow one another are no more
than the bytes. This is said of the rounds themselves, `typedRound` and `allRound`: put into one another more often
than there are bytes, they give what the reader gives, whatever is put innermost (`iterate_typedRound`,
`iterate_allRound`). The innermost place is never come to, and the bounds that the readers carry are no more than
that.
-/

namespace PedestrianControl

namespace Decoder

variable {α : Type}

/-! ## Whatever is read takes a byte -/

/-- Whatever the decoder gives takes at least as many bytes as its size. -/
def Charges (d : Decoder α) (size : α → Nat) : Prop :=
  ∀ bytes a rest, d bytes = .ok a rest → size a + rest.length ≤ bytes.length

/-- What is exact takes as many bytes as are written of the value. -/
theorem Exact.charges {d : Decoder α} {write : α → Output} {size : α → Nat} (h : d.Exact write)
    (hsize : ∀ a, (write a).error? = none → size a ≤ (write a).bytes.length) : d.Charges size := by
  intro bytes a rest ha
  obtain ⟨taken, rfl, hwrite⟩ := h.eq_append ha
  have hle := hsize a (by rw [hwrite]; rfl)
  rw [hwrite, Output.bytes_of] at hle
  rw [List.length_append]
  exact Nat.add_le_add_right hle _

/-- What is exact takes a byte if something is written of every value. -/
theorem Exact.shrinks {d : Decoder α} {write : α → Output} (h : d.Exact write)
    (hne : ∀ a, (write a).error? = none → (write a).bytes ≠ []) : d.Shrinks := by
  have hone : d.Charges fun _ => 1 := h.charges fun a ha => List.length_pos_iff.2 (hne a ha)
  intro bytes a rest ha
  have hle : 1 + rest.length ≤ bytes.length := hone bytes a rest ha
  omega

theorem shrinks_byte : byte.Shrinks := exact_byte.shrinks fun _ _ => List.cons_ne_nil _ _

theorem shrinks_int32 : int32.Shrinks := exact_int32.shrinks fun _ _ => List.cons_ne_nil _ _

/-- A string takes a byte at least, as its length has four. -/
theorem shrinks_string : string.Shrinks :=
  exact_string.shrinks fun s _ => Output.bytes_string_ne_nil s

theorem shrinks_dataType : dataType.Shrinks := exact_dataType.shrinks fun _ _ => List.cons_ne_nil _ _

theorem shrinks_vec2 : vec2.Shrinks := exact_vec2.shrinks fun _ _ => List.cons_ne_nil _ _

/-- A typed value takes a byte at least, at any depth. -/
theorem shrinks_typedWithin (levels : Nat) : (typedWithin levels).Shrinks :=
  (exact_typedWithin levels).shrinks fun v _ => Output.bytes_typed_ne_nil v

theorem shrinks_typed : typed.Shrinks := exact_typed.shrinks fun v _ => Output.bytes_typed_ne_nil v

theorem shrinks_subscribedValue : subscribedValue.Shrinks :=
  exact_subscribedValue.shrinks fun _ _ => List.cons_ne_nil _ _

/-- A unit takes a byte at least. -/
theorem shrinks_unit : unit.Shrinks := by
  intro bytes content rest h
  obtain ⟨u, -, rfl⟩ := PlacedUnit.exists_of_unit h
  exact u.length_lt_append rest

/-- What is read from a unit takes a byte at least. -/
theorem shrinks_unitOf (read : Bytes → Except Error α) : (unitOf read).Shrinks := by
  intro bytes a rest h
  obtain ⟨u, -, rfl⟩ := exists_of_unitOf h
  exact u.length_lt_append rest

/-- A result of a step takes a byte at least. -/
theorem shrinks_stepResult : stepResult.Shrinks :=
  exact_stepResult.shrinks fun r hr => by
    rw [Output.error?_enclose] at hr
    rw [Output.bytes_enclose hr]
    exact List.cons_ne_nil _ _

/-! ## The recursion of typed values -/

/-- A typed value, with `item` reading the elements of a compound. -/
def typedRound (item : Decoder TypedValue) : Decoder TypedValue := do
  let t ← dataType
  body item t

/-- Elements are read alike by readers that agree on the bytes at hand, if reading does not add to them. -/
theorem many_congr {item other : Decoder α} (hshrinks : item.Shrinks) {bytes : Bytes}
    (h : ∀ b : Bytes, b.length ≤ bytes.length → other b = item b) (n : Nat) :
    many n other bytes = many n item bytes := by
  induction n generalizing bytes with
  | zero => rfl
  | succ n ih =>
    rw [many_succ, many_succ, h bytes (Nat.le_refl _)]
    cases hitem : item bytes with
    | error e rest => rfl
    | ok a rest =>
      have hlt := hshrinks _ _ _ hitem
      have hrest : many n other rest = many n item rest := ih fun b hb => h b (by omega)
      simp only [hrest]

/-- Lists are read alike if their elements are, on the bytes at hand. -/
theorem list_congr {item other : Decoder α} (hshrinks : item.Shrinks) {bytes : Bytes}
    (h : ∀ b : Bytes, b.length ≤ bytes.length → other b = item b) : list other bytes = list item bytes := by
  rw [list, list, counted, counted]
  cases hcount : int32 bytes with
  | error e rest => rw [bind_of_error hcount, bind_of_error hcount]
  | ok count rest =>
    have hlt := shrinks_int32 _ _ _ hcount
    rw [bind_of_ok hcount, bind_of_ok hcount]
    by_cases hnegative : count < 0
    · rw [if_pos hnegative, if_pos hnegative]
      rfl
    · rw [if_neg hnegative, if_neg hnegative]
      exact many_congr hshrinks (fun b hb => h b (by omega)) _

/-- A body is read alike by readers of a compound's elements that agree on the bytes at hand. -/
theorem body_congr {item other : Decoder TypedValue} (hshrinks : item.Shrinks) {bytes : Bytes}
    (h : ∀ b : Bytes, b.length ≤ bytes.length → other b = item b) (t : DataType) :
    body other t bytes = body item t bytes := by
  cases t with
  | compound =>
    have hlist := list_congr hshrinks h
    rw [body, body]
    cases hitems : list item bytes with
    | error e rest => rw [bind_of_error hitems, bind_of_error (hlist.trans hitems)]
    | ok items rest => rw [bind_of_ok hitems, bind_of_ok (hlist.trans hitems)]
  | _ => rfl

/-- A round needs the elements of compounds only behind its first byte. -/
theorem typedRound_congr {item other : Decoder TypedValue} (hshrinks : item.Shrinks) {bytes : Bytes}
    (h : ∀ b : Bytes, b.length < bytes.length → other b = item b) :
    typedRound other bytes = typedRound item bytes := by
  rw [typedRound, typedRound]
  cases ht : dataType bytes with
  | error e rest => rw [bind_of_error ht, bind_of_error ht]
  | ok t rest =>
    have hlt := shrinks_dataType _ _ _ ht
    rw [bind_of_ok ht, bind_of_ok ht]
    exact body_congr hshrinks (fun b hb => h b (by omega)) t

/-- With as many levels of nesting as there are bytes, or more, a value is read as by that many rounds. -/
theorem iterate_typedRound_eq (bottom : Decoder TypedValue) {n levels : Nat} {bytes : Bytes}
    (hn : bytes.length < n) (hlevels : bytes.length ≤ levels) :
    typedRound^[n] bottom bytes = typedWithin levels bytes := by
  induction n generalizing levels bytes with
  | zero => exact absurd hn (Nat.not_lt_zero _)
  | succ n ih =>
    rw [Function.iterate_succ_apply']
    cases levels with
    | zero =>
      obtain rfl := List.eq_nil_of_length_eq_zero (Nat.le_zero.1 hlevels)
      rfl
    | succ levels =>
      exact typedRound_congr (shrinks_typedWithin levels) fun b hb => ih (by omega) (by omega)

/-- Rounds put into one another more often than there are bytes read a typed value, whatever is innermost. -/
theorem iterate_typedRound (bottom : Decoder TypedValue) {n : Nat} {bytes : Bytes}
    (hn : bytes.length < n) : typedRound^[n] bottom bytes = typed bytes :=
  iterate_typedRound_eq bottom hn (Nat.le_refl _)

/-! ## The loop over a payload -/

/-- The next item behind those in `done`, the last one first, and then `more`; at the end of the payload the items. -/
def allRound (item : Decoder α) (more : List α → Decoder (List α)) (done : List α) :
    Decoder (List α) := do
  match ← next? item with
  | none => return done.reverse
  | some a => more (a :: done)

/-- The loop is its rounds put into one another, more often than there are bytes. -/
theorem iterate_allRound_eq {item : Decoder α} (hshrinks : item.Shrinks)
    (bottom : List α → Decoder (List α)) {n limit : Nat} {bytes : Bytes} (done : List α)
    (hn : bytes.length < n) (hlimit : bytes.length ≤ limit) :
    (allRound item)^[n] bottom done bytes = allAfter item done limit bytes := by
  induction n generalizing limit bytes done with
  | zero => exact absurd hn (Nat.not_lt_zero _)
  | succ n ih =>
    rw [Function.iterate_succ_apply', allRound]
    by_cases hne : bytes = []
    · subst hne
      cases limit with
      | zero => rfl
      | succ limit => rfl
    · have hpos := List.length_pos_iff.2 hne
      obtain ⟨below, rfl⟩ := Nat.exists_eq_add_one.2 (Nat.lt_of_lt_of_le hpos hlimit)
      cases hitem : item bytes with
      | error e rest =>
        have hnext := next?_of_error hne hitem
        rw [allAfter, bind_of_error hnext, bind_of_error hnext]
      | ok a rest =>
        have hlt := hshrinks _ _ _ hitem
        rw [allAfter_of_ok hne hitem, bind_of_ok (next?_of_ok hne hitem)]
        exact ih (a :: done) (by omega) (by omega)

/-- Rounds put into one another more often than there are bytes read a payload, whatever is innermost. -/
theorem iterate_allRound {item : Decoder α} (hshrinks : item.Shrinks)
    (bottom : List α → Decoder (List α)) {n : Nat} {bytes : Bytes} (hn : bytes.length < n) :
    (allRound item)^[n] bottom [] bytes = all item bytes :=
  iterate_allRound_eq hshrinks bottom [] hn (Nat.le_refl _)

end Decoder

end PedestrianControl
