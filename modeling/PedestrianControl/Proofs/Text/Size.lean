import Mathlib.Algebra.GroupWithZero.Nat
import PedestrianControl.Text.Blank
import PedestrianControl.Text.Hexadecimal
import PedestrianControl.Text.Utf8

/-!
# How long texts are

The size of a text is the number of its bytes. A number is written with as many digits as it has
(`Text.size_repr_le`), and what is cut out of a text, a line or a word, is no longer than the text. A function
that fails with one of several messages is `Text.ToldWithin` a bound on all of them.
-/

namespace PedestrianControl

open Text (hexByte hexDigit)

/-- The bytes of a text are as many as its size says. -/
theorem Utf8.length_encode (s : String) : (Utf8.encode s).length = s.utf8ByteSize := by
  rw [Utf8.encode, Array.length_toList]
  rfl

namespace Text

/-! ## Messages -/

/-- The size of a text with something before it. -/
theorem size_behind (before text : String) :
    (before ++ text).utf8ByteSize = text.utf8ByteSize + before.utf8ByteSize := by
  rw [String.utf8ByteSize_append, Nat.add_comm]

/-- The size of a text with something before and after it. -/
theorem size_within (before text after : String) :
    (before ++ text ++ after).utf8ByteSize =
      text.utf8ByteSize + (before.utf8ByteSize + after.utf8ByteSize) := by
  rw [String.utf8ByteSize_append, size_behind, Nat.add_assoc]

/-- The size of two texts with something before and between them. -/
theorem size_pair (before first between second : String) :
    (before ++ first ++ between ++ second).utf8ByteSize =
      first.utf8ByteSize + second.utf8ByteSize + (before.utf8ByteSize + between.utf8ByteSize) := by
  simp only [String.utf8ByteSize_append]
  omega

/-! ## Characters -/

/-- A text takes the bytes of its characters. -/
theorem size_ofList (cs : List Char) : (String.ofList cs).utf8ByteSize = (cs.map Char.utf8Size).sum := by
  induction cs with
  | nil => rfl
  | cons c cs ih =>
    rw [← List.singleton_append, String.ofList_append, String.utf8ByteSize_append, ih,
      ← String.singleton_eq_ofList, String.utf8ByteSize_singleton, List.map_append, List.sum_append]
    rfl

/-- With characters left out, a text takes no more bytes. -/
theorem size_ofList_le_of_sublist {cs ds : List Char} (h : cs.Sublist ds) :
    (String.ofList cs).utf8ByteSize ≤ (String.ofList ds).utf8ByteSize := by
  rw [size_ofList, size_ofList]
  induction h with
  | slnil => exact Nat.le_refl _
  | cons c _ ih =>
    rw [List.map_cons, List.sum_cons]
    exact Nat.le_add_left_of_le ih
  | cons_cons c _ ih =>
    rw [List.map_cons, List.map_cons, List.sum_cons, List.sum_cons]
    exact Nat.add_le_add_left ih _

/-- A text takes a byte for each character at least. -/
theorem length_le_size (cs : List Char) : cs.length ≤ (String.ofList cs).utf8ByteSize := by
  induction cs with
  | nil => exact Nat.zero_le _
  | cons c cs ih =>
    rw [size_ofList] at ih
    rw [size_ofList, List.map_cons, List.sum_cons, List.length_cons]
    have := c.utf8Size_pos
    omega

/-- Where every character takes one byte, a text has as many bytes as characters. -/
theorem size_ofList_eq_length {cs : List Char} (h : ∀ c ∈ cs, c.utf8Size = 1) :
    (String.ofList cs).utf8ByteSize = cs.length := by
  rw [size_ofList]
  induction cs with
  | nil => rfl
  | cons c cs ih =>
    obtain ⟨hc, hcs⟩ := List.forall_mem_cons.1 h
    rw [List.map_cons, List.sum_cons, hc, ih hcs, List.length_cons, Nat.add_comm]

/-! ## Numbers -/

/-- A decimal digit takes one byte. -/
theorem utf8Size_of_isDigit {c : Char} (h : c.isDigit) : c.utf8Size = 1 := by
  have hle : c.toNat ≤ 57 := (Char.isDigit_iff_toNat.1 h).2
  rw [Char.utf8Size_eq_one_iff, UInt32.le_iff_toNat_le]
  exact Nat.le_trans hle (by decide)

/-- A number below a power of ten has no more digits than the power says. -/
theorem size_repr_le {n k : Nat} (hk : 0 < k) (h : n < 10 ^ k) : n.repr.utf8ByteSize ≤ k := by
  rw [Nat.repr_eq_ofList_toDigits, size_ofList_eq_length fun c hc =>
    utf8Size_of_isDigit (Nat.isDigit_of_mem_toDigits (by decide) (Nat.le_refl 10) hc)]
  exact (Nat.length_toDigits_le_iff (by decide) hk).2 h

/-- A number written out takes no more bytes than its value and one. -/
theorem size_repr_le_succ (n : Nat) : n.repr.utf8ByteSize ≤ n + 1 :=
  size_repr_le (Nat.succ_pos n) (Nat.lt_of_succ_lt (Nat.lt_pow_self (by decide)))

/-- A 32-bit integer takes eleven bytes at most, its sign included. -/
theorem size_toString_int32_le (n : Int32) : (toString n.toInt).utf8ByteSize ≤ 11 := by
  have hlow : -2 ^ 31 ≤ n.toInt := n.le_toInt
  have hhigh : n.toInt < 2 ^ 31 := n.toInt_lt
  cases hn : n.toInt with
  | ofNat m =>
    rw [hn] at hhigh
    have hm : m < 10 ^ 10 := by
      have : (m : Int) < 2 ^ 31 := hhigh
      omega
    exact Nat.le_trans (size_repr_le (by decide) hm) (by decide)
  | negSucc m =>
    rw [hn] at hlow
    have hm : m + 1 < 10 ^ 10 := by omega
    have hdigits : (m + 1).repr.utf8ByteSize ≤ 10 := size_repr_le (by decide) hm
    show ("-" ++ (m + 1).repr).utf8ByteSize ≤ 11
    rw [String.utf8ByteSize_append]
    exact Nat.add_le_add (Nat.le_refl 1) hdigits

/-- A byte in hexadecimal takes four bytes with its prefix. -/
theorem size_hexByte (b : UInt8) : (hexByte b).utf8ByteSize = 4 := by
  have hdigit : ∀ n < 16, (hexDigit n).utf8Size = 1 := by decide
  have hb := b.toNat_lt
  have hhigh := hdigit (b.toNat / 16) (by omega)
  have hlow := hdigit (b.toNat % 16) (Nat.mod_lt _ (by decide))
  rw [hexByte, size_ofList_eq_length]
  · rfl
  · simp only [List.forall_mem_cons, hhigh, hlow]
    exact ⟨by decide, by decide, trivial, trivial, List.forall_mem_nil _⟩

/-! ## Lines and words -/

/-- What is before a separator is part of the text. -/
theorem cut_fst_sublist (separator : Char) (cs : List Char) : (cut separator cs).1.Sublist cs := by
  induction cs with
  | nil => exact List.Sublist.refl _
  | cons c cs ih =>
    rw [cut]
    split
    · exact List.nil_sublist _
    · exact ih.cons_cons c

/-- A piece is part of the text. -/
theorem sublist_of_mem_pieces {separator : Char} {cs piece : List Char} (h : piece ∈ pieces separator cs) :
    piece.Sublist cs := by
  induction cs generalizing piece with
  | nil =>
    obtain rfl := List.mem_singleton.1 h
    exact List.Sublist.refl _
  | cons c cs ih =>
    rw [pieces] at h
    split at h
    · rcases List.mem_cons.1 h with rfl | h
      · exact List.nil_sublist _
      · exact (ih h).cons c
    · split at h
      · rw [List.mem_singleton.1 h]
        exact List.singleton_sublist.2 List.mem_cons_self
      · rename_i first others hpieces
        rw [hpieces] at ih
        rcases List.mem_cons.1 h with rfl | h
        · exact (ih List.mem_cons_self).cons_cons c
        · exact (ih (List.mem_cons_of_mem _ h)).cons c

/-- There is at most one piece more than there are characters. -/
theorem length_pieces_le (separator : Char) (cs : List Char) :
    (pieces separator cs).length ≤ cs.length + 1 := by
  induction cs with
  | nil => exact Nat.le_refl 1
  | cons c cs ih =>
    rw [pieces]
    split
    · exact Nat.succ_le_succ ih
    · split
      · exact Nat.le_add_left _ _
      · rename_i first others hpieces
        rw [hpieces] at ih
        exact Nat.le_trans ih (Nat.le_succ _)

/-- A line without its carriage return is part of the line. -/
theorem dropReturn_sublist (line : List Char) : (dropReturn line).Sublist line := by
  rw [dropReturn]
  split
  · exact List.dropLast_sublist _
  · exact List.Sublist.refl _

/-- A line of a text is cut out of it. -/
theorem sublist_of_mem_lines {cs line : List Char} (h : line ∈ lines cs) : line.Sublist cs := by
  rw [lines] at h
  split at h
  · cases h
  · rename_i last ended hreverse
    have hpieces {piece : List Char} (hpiece : piece ∈ last :: ended) : piece.Sublist cs :=
      sublist_of_mem_pieces (List.mem_reverse.1 (hreverse ▸ hpiece))
    have hended (hline : line ∈ (ended.map dropReturn).reverse) : line.Sublist cs := by
      obtain ⟨piece, hpiece, rfl⟩ := List.mem_map.1 (List.mem_reverse.1 hline)
      exact (dropReturn_sublist piece).trans (hpieces (List.mem_cons_of_mem _ hpiece))
    dsimp only at h
    split at h
    · exact hended h
    · rcases List.mem_append.1 h with h | h
      · exact hended h
      · rw [List.mem_singleton.1 h]
        exact hpieces List.mem_cons_self

/-- There is at most one line more than there are characters. -/
theorem length_lines_le (cs : List Char) : (lines cs).length ≤ cs.length + 1 := by
  have hle := length_pieces_le '\n' cs
  rw [← List.length_reverse] at hle
  rw [lines]
  split
  · exact Nat.zero_le _
  · rename_i last ended hreverse
    rw [hreverse, List.length_cons] at hle
    dsimp only
    split
    · rw [List.length_reverse, List.length_map]
      omega
    · rw [List.length_append, List.length_reverse, List.length_map, List.length_singleton]
      exact hle

/-- A further character in front changes no more than the first word. -/
theorem words_cons_cases (c : Char) (cs : List Char) :
    words (c :: cs) = words cs ∨ words (c :: cs) = [[c]] ∨ words (c :: cs) = [] ∨
      ∃ first others, words cs = first :: others ∧
        (words (c :: cs) = [c] :: first :: others ∨ words (c :: cs) = (c :: first) :: others) := by
  rw [words.eq_def (c :: cs)]
  dsimp only
  split
  · exact .inl rfl
  · split
    · exact .inr (.inl rfl)
    · split
      · exact .inr (.inl rfl)
      · exact .inr (.inr (.inl rfl))
    · rename_i first others hwords
      refine .inr (.inr (.inr ⟨first, others, hwords, ?_⟩))
      split
      · exact .inl rfl
      · exact .inr rfl

/-- A word of a line is cut out of it. -/
theorem sublist_of_mem_words {cs word : List Char} (h : word ∈ words cs) : word.Sublist cs := by
  induction cs generalizing word with
  | nil => cases h
  | cons c cs ih =>
    have hone : [c].Sublist (c :: cs) := List.singleton_sublist.2 List.mem_cons_self
    rcases words_cons_cases c cs with heq | heq | heq | ⟨first, others, hwords, heq | heq⟩
    · exact (ih (heq ▸ h)).cons c
    · rw [heq] at h
      rwa [List.mem_singleton.1 h]
    · rw [heq] at h
      cases h
    · rw [heq] at h
      rcases List.mem_cons.1 h with rfl | h
      · exact hone
      · exact (ih (hwords ▸ h)).cons c
    · rw [heq] at h
      rw [hwords] at ih
      rcases List.mem_cons.1 h with rfl | h
      · exact (ih List.mem_cons_self).cons_cons c
      · exact (ih (List.mem_cons_of_mem _ h)).cons c

/-- There are at most as many words as characters. -/
theorem length_words_le (cs : List Char) : (words cs).length ≤ cs.length := by
  induction cs with
  | nil => exact Nat.le_refl 0
  | cons c cs ih =>
    rcases words_cons_cases c cs with heq | heq | heq | ⟨first, others, hwords, heq | heq⟩
    · rw [heq]
      exact Nat.le_trans ih (Nat.le_succ _)
    · rw [heq]
      exact Nat.succ_le_succ (Nat.zero_le _)
    · rw [heq]
      exact Nat.zero_le _
    · rw [heq, List.length_cons, ← hwords]
      exact Nat.succ_le_succ ih
    · rw [heq, List.length_cons]
      rw [hwords] at ih
      exact Nat.le_trans ih (Nat.le_succ _)

/-! ## Failures -/

/-- An outcome that, where it is a failure, is told in at most so many bytes. -/
def ToldWithin {ε α : Type} (message : ε → String) (n : Nat) (outcome : Except ε α) : Prop :=
  ∀ e, outcome = .error e → (message e).utf8ByteSize ≤ n

namespace ToldWithin

variable {ε α β : Type} {message : ε → String} {m n : Nat}

theorem ok (a : α) : ToldWithin message n (.ok a) := nofun

/-- An error is told within its own size. -/
theorem error {e : ε} (h : (message e).utf8ByteSize ≤ n) :
    ToldWithin message n (.error e : Except _ α) := by
  rintro _ ⟨⟩
  exact h

/-- Of two things told within some size, one after the other is. -/
theorem bind {x : Except ε α} {f : α → Except ε β} (hx : ToldWithin message n x)
    (hf : ∀ a, x = .ok a → ToldWithin message n (f a)) : ToldWithin message n (x >>= f) := by
  cases x with
  | error e => exact error (hx e rfl)
  | ok a => exact hf a rfl

/-- What is made of a success makes no difference. -/
theorem map {x : Except ε α} (hx : ToldWithin message n x) (f : α → β) :
    ToldWithin message n (f <$> x) := by
  cases x with
  | error e => exact error (hx e rfl)
  | ok a => exact ok (f a)

/-- What is told within some size is told within a larger one. -/
theorem mono {x : Except ε α} (hx : ToldWithin message m x) (h : m ≤ n) : ToldWithin message n x :=
  fun e he => Nat.le_trans (hx e he) h

end ToldWithin

end Text

end PedestrianControl
