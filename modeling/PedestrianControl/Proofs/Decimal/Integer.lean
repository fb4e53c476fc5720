import PedestrianControl.Decimal.Reading

/-!
# Printed numbers are read back

A whole number is printed in decimal with a minus sign in front if it is negative. The reader takes more than
that, a plus sign and zeros in front, but what was printed it reads as the number that was meant, up to both
ends of the range (`Decimal.int32?_toString`).
-/

namespace PedestrianControl.Decimal

/-- A decimal digit's value is its distance from the digit zero. -/
theorem digit?_of_isDigit {c : Char} (h : c.isDigit = true) : digit? c = some (c.toNat - '0'.toNat) := by
  obtain ⟨hlow, hhigh⟩ := Char.isDigit_iff_toNat.1 h
  have hrange : '0' ≤ c ∧ c ≤ '9' := ⟨hlow, hhigh⟩
  rw [digit?, if_pos (by simpa using hrange)]
  rfl

/-- A run of digits is taken whole, and its value is that of the digits. -/
theorem leadingDigits_of_isDigit {cs : List Char} (h : ∀ c ∈ cs, c.isDigit = true) (value count : Nat) :
    leadingDigits cs value count = (Nat.ofDigitChars 10 cs value, count + cs.length, []) := by
  induction cs generalizing value count with
  | nil => rfl
  | cons c cs ih =>
    obtain ⟨hc, hcs⟩ := List.forall_mem_cons.1 h
    rw [leadingDigits, digit?_of_isDigit hc, Nat.ofDigitChars_cons, List.length_cons]
    dsimp only
    rw [ih hcs, Nat.add_assoc, Nat.add_comm 1]

/-- What is written of a number in base ten is digits only. -/
theorem isDigit_of_mem_toDigits {c : Char} {n : Nat} (h : c ∈ Nat.toDigits 10 n) : c.isDigit = true :=
  Nat.isDigit_of_mem_toDigits (by decide) (Nat.le_refl 10) h

/-- Reading the digits of a number gives the number. -/
theorem digitsOnly?_toDigits (n : Nat) : digitsOnly? (Nat.toDigits 10 n) = some n := by
  rw [digitsOnly?, leadingDigits_of_isDigit fun _ => isDigit_of_mem_toDigits, Nat.ofDigitChars_ten_toDigits]
  have hlength : 0 + (Nat.toDigits 10 n).length ≠ 0 := by
    rw [Nat.zero_add]
    exact fun h => Nat.toDigits_ne_nil (List.length_eq_zero_iff.1 h)
  exact if_neg hlength

/-- Digits have no sign in front. -/
theorem sign_of_isDigit {cs : List Char} (h : ∀ c ∈ cs, c.isDigit = true) : sign cs = (false, cs) := by
  unfold sign
  split
  · simp at h
  · simp at h
  · rfl

/-- An integer written out is read as itself. -/
theorem int?_toString (n : Int) : int? (toString n).toList = some n := by
  cases n with
  | ofNat m =>
    have hprinted : (toString (Int.ofNat m)).toList = Nat.toDigits 10 m := Nat.toList_repr
    rw [int?, hprinted, sign_of_isDigit fun _ => isDigit_of_mem_toDigits]
    simp [digitsOnly?_toDigits]
  | negSucc m =>
    have hprinted : (toString (Int.negSucc m)).toList = '-' :: Nat.toDigits 10 (m + 1) := by
      show ("-" ++ (m + 1).repr).toList = _
      rw [String.toList_append, Nat.toList_repr]
      rfl
    rw [int?, hprinted, sign]
    simp [digitsOnly?_toDigits, Int.negSucc_eq]

/-- A number of 32 bits is read back from its decimal digits. -/
theorem int32?_toString (n : Int32) : int32? (toString n.toInt).toList = some n := by
  have hlow := n.le_toInt
  have hhigh := n.toInt_lt
  have hrange : -2147483648 ≤ n.toInt ∧ n.toInt ≤ 2147483647 := by omega
  rw [int32?, int?_toString]
  dsimp only
  rw [if_pos (by simpa using hrange), Int32.ofInt_toInt]

/-- The least number has no positive counterpart that the reader could turn over. -/
example : int32? "-2147483648".toList = some (-2147483648) ∧ int32? "2147483648".toList = none := by
  decide

end PedestrianControl.Decimal
