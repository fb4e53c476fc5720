import PedestrianControl.Proofs.Text.Size

/-!
# How texts divide

What the lines of a text and the words of a line are, said without the functions that cut them out. `Text.Lined`
puts a text together from its lines and their ends, and `Text.Spaced` a line from its words and the blanks
around them. Each text can be put together in exactly one way, and `lines` and `words` find it
(`Text.lines_eq_iff`, `Text.words_eq_iff`).
-/

namespace PedestrianControl.Text

/-! ## Lines -/

/-- The text consists of these lines. A line ends with a line feed, to which a carriage return just before it
belongs; the last line may lack its end if there is something in it. -/
inductive Lined : List Char → List (List Char) → Prop
  | empty : Lined [] []
  | unended {line : List Char} (hne : line ≠ []) (hfeed : '\n' ∉ line) : Lined line [line]
  | feed {line rest : List Char} {others : List (List Char)} (hfeed : '\n' ∉ line)
      (hreturn : line.getLast? ≠ some '\r') (h : Lined rest others) :
      Lined (line ++ '\n' :: rest) (line :: others)
  | returnFeed {line rest : List Char} {others : List (List Char)} (hfeed : '\n' ∉ line)
      (h : Lined rest others) : Lined (line ++ '\r' :: '\n' :: rest) (line :: others)

/-- A text without the separator is one piece. -/
theorem pieces_of_not_mem {separator : Char} {cs : List Char} (h : separator ∉ cs) :
    pieces separator cs = [cs] := by
  induction cs with
  | nil => rfl
  | cons c cs ih =>
    rw [pieces, if_neg (List.ne_of_not_mem_cons h).symm, ih (List.not_mem_of_not_mem_cons h)]

/-- A separator ends the first piece. -/
theorem pieces_append_cons {separator : Char} {piece : List Char} (h : separator ∉ piece)
    (rest : List Char) :
    pieces separator (piece ++ separator :: rest) = piece :: pieces separator rest := by
  induction piece with
  | nil => rw [List.nil_append, pieces, if_pos rfl]
  | cons c piece ih =>
    rw [List.cons_append, pieces, if_neg (List.ne_of_not_mem_cons h).symm,
      ih (List.not_mem_of_not_mem_cons h)]

/-- There is always a piece, be it empty. -/
theorem pieces_ne_nil (separator : Char) (cs : List Char) : pieces separator cs ≠ [] := by
  cases cs with
  | nil => exact List.cons_ne_nil _ _
  | cons c cs =>
    rw [pieces]
    split
    · exact List.cons_ne_nil _ _
    · split <;> exact List.cons_ne_nil _ _

/-- A text without a line feed is one line unless it is empty. -/
theorem lines_of_not_mem {line : List Char} (hne : line ≠ []) (h : '\n' ∉ line) :
    lines line = [line] := by
  rw [lines, pieces_of_not_mem h, List.reverse_singleton]
  exact if_neg (by rwa [List.isEmpty_iff])

/-- A line feed ends the first line. -/
theorem lines_append_cons {line : List Char} (h : '\n' ∉ line) (rest : List Char) :
    lines (line ++ '\n' :: rest) = dropReturn line :: lines rest := by
  obtain ⟨last, ended, hreverse⟩ : ∃ last ended, (pieces '\n' rest).reverse = last :: ended :=
    List.exists_cons_of_ne_nil (by simpa using pieces_ne_nil '\n' rest)
  rw [lines, lines, pieces_append_cons h, List.reverse_cons, hreverse, List.cons_append]
  dsimp only
  rw [List.map_append, List.reverse_append]
  split <;> rfl

/-- The lines are those the text consists of. -/
theorem lines_of_lined {cs : List Char} {ls : List (List Char)} (h : Lined cs ls) : lines cs = ls := by
  induction h with
  | empty => rfl
  | unended hne hfeed => exact lines_of_not_mem hne hfeed
  | feed hfeed hreturn _ ih => rw [lines_append_cons hfeed, ih, dropReturn, if_neg hreturn]
  | @returnFeed line rest _ hfeed _ ih =>
    have hline : line ++ '\r' :: '\n' :: rest = (line ++ ['\r']) ++ '\n' :: rest := by
      rw [List.append_assoc, List.singleton_append]
    have hreturned : '\n' ∉ line ++ ['\r'] := by simpa using hfeed
    rw [hline, lines_append_cons hreturned, ih, dropReturn, if_pos List.getLast?_concat,
      List.dropLast_concat]

/-- Every text consists of lines. -/
theorem exists_lined (cs : List Char) : ∃ ls, Lined cs ls := by
  by_cases hmem : '\n' ∈ cs
  · obtain ⟨line, rest, hcs, hfeed⟩ := List.eq_append_cons_of_mem hmem
    have hshorter : rest.length < cs.length := by
      rw [hcs, List.length_append, List.length_cons]
      omega
    obtain ⟨others, hrest⟩ := exists_lined rest
    rw [hcs]
    by_cases hreturn : line.getLast? = some '\r'
    · obtain ⟨line, rfl⟩ := List.getLast?_eq_some_iff.1 hreturn
      have hshort : '\n' ∉ line := fun h => hfeed (List.mem_append_left _ h)
      refine ⟨line :: others, ?_⟩
      rw [List.append_assoc]
      exact .returnFeed hshort hrest
    · exact ⟨line :: others, .feed hfeed hreturn hrest⟩
  · by_cases hne : cs = []
    · exact ⟨[], hne ▸ .empty⟩
    · exact ⟨[cs], .unended hne hmem⟩
termination_by cs.length

/-- The lines found are those that the text consists of. -/
theorem lines_eq_iff {cs : List Char} {ls : List (List Char)} : lines cs = ls ↔ Lined cs ls := by
  refine ⟨?_, lines_of_lined⟩
  rintro rfl
  obtain ⟨ls, h⟩ := exists_lined cs
  rwa [lines_of_lined h]

/-! ## Words -/

/-- What stands before the first separator. -/
theorem cut_fst (separator : Char) (cs : List Char) :
    (cut separator cs).1 = cs.takeWhile (· != separator) := by
  induction cs with
  | nil => rfl
  | cons c cs ih =>
    rw [cut]
    split
    · rename_i hc
      simp [hc]
    · rename_i hc
      rw [List.takeWhile_cons_of_pos (by simpa using hc), ← ih]

/-- The text consists of these words, with blanks between them and perhaps before and after. -/
inductive Spaced : List Char → List (List Char) → Prop
  | blank {gap : List Char} (h : ∀ c ∈ gap, isBlank c = true) : Spaced gap []
  | word {gap word rest : List Char} {others : List (List Char)} (hgap : ∀ c ∈ gap, isBlank c = true)
      (hne : word ≠ []) (hword : ∀ c ∈ word, isBlank c = false)
      (hafter : ∀ c ∈ rest.head?, isBlank c = true) (h : Spaced rest others) :
      Spaced (gap ++ (word ++ rest)) (word :: others)

/-- Blanks before the words make no difference. -/
theorem words_blank_append {gap : List Char} (h : ∀ c ∈ gap, isBlank c = true) (rest : List Char) :
    words (gap ++ rest) = words rest := by
  induction gap with
  | nil => rfl
  | cons c gap ih =>
    obtain ⟨hc, hgap⟩ := List.forall_mem_cons.1 h
    rw [List.cons_append, words.eq_def]
    dsimp only
    rw [if_pos hc, ih hgap]

/-- A word stands in front of what comes after the blank behind it. -/
theorem words_word_append {word rest : List Char} (hne : word ≠ [])
    (hword : ∀ c ∈ word, isBlank c = false) (hafter : ∀ c ∈ rest.head?, isBlank c = true) :
    words (word ++ rest) = word :: words rest := by
  induction word with
  | nil => exact absurd rfl hne
  | cons c word ih =>
    obtain ⟨hc, hletters⟩ := List.forall_mem_cons.1 hword
    rw [List.cons_append, words.eq_def]
    dsimp only
    rw [if_neg (Bool.eq_false_iff.1 hc)]
    cases word with
    | nil =>
      cases rest with
      | nil => rfl
      | cons d rest =>
        have hd : isBlank d = true := hafter d rfl
        rw [List.nil_append]
        cases words (d :: rest) with
        | nil => exact if_pos hd
        | cons first others => exact if_pos hd
    | cons d word =>
      have hd : isBlank d = false := hletters d List.mem_cons_self
      rw [ih (List.cons_ne_nil d word) hletters]
      exact if_neg (Bool.eq_false_iff.1 hd)

/-- The words are those the text consists of, between blanks. -/
theorem words_of_spaced {cs : List Char} {ws : List (List Char)} (h : Spaced cs ws) : words cs = ws := by
  induction h with
  | @blank gap hgap =>
    rw [← List.append_nil gap, words_blank_append hgap]
    rfl
  | word hgap hne hword hafter _ ih =>
    rw [words_blank_append hgap, words_word_append hne hword hafter, ih]

/-- A blank in front belongs to the gap before the first word. -/
theorem Spaced.cons_blank {c : Char} {cs : List Char} {ws : List (List Char)} (hc : isBlank c = true)
    (h : Spaced cs ws) : Spaced (c :: cs) ws := by
  cases h with
  | blank hgap => exact .blank (List.forall_mem_cons.2 ⟨hc, hgap⟩)
  | word hgap hne hword hafter hrest =>
    exact .word (List.forall_mem_cons.2 ⟨hc, hgap⟩) hne hword hafter hrest

/-- Every text consists of words. -/
theorem exists_spaced (cs : List Char) : ∃ ws, Spaced cs ws := by
  induction cs with
  | nil => exact ⟨[], .blank (List.forall_mem_nil _)⟩
  | cons c cs ih =>
    obtain ⟨ws, h⟩ := ih
    by_cases hc : isBlank c = true
    · exact ⟨ws, h.cons_blank hc⟩
    · rw [Bool.not_eq_true] at hc
      -- the character is a word of its own unless a word follows at once
      have halone (hafter : ∀ d ∈ cs.head?, isBlank d = true) : ∃ ws, Spaced (c :: cs) ws :=
        ⟨[c] :: ws, @Spaced.word [] [c] cs ws (List.forall_mem_nil _) (List.cons_ne_nil c [])
          (List.forall_mem_singleton.2 hc) hafter h⟩
      cases h with
      | blank hgap => exact halone fun d hd => hgap d (List.mem_of_mem_head? hd)
      | @word gap word rest others hgap hne hword hafter hrest =>
        cases gap with
        | nil =>
          exact ⟨(c :: word) :: others, @Spaced.word [] (c :: word) rest others (List.forall_mem_nil _)
            (List.cons_ne_nil c word) (List.forall_mem_cons.2 ⟨hc, hword⟩) hafter hrest⟩
        | cons d gap =>
          refine halone fun d' hd' => ?_
          obtain rfl : d = d' := Option.some.inj hd'
          exact hgap d List.mem_cons_self

/-- The words found are those that the text consists of. -/
theorem words_eq_iff {cs : List Char} {ws : List (List Char)} : words cs = ws ↔ Spaced cs ws := by
  refine ⟨?_, words_of_spaced⟩
  rintro rfl
  obtain ⟨ws, h⟩ := exists_spaced cs
  rwa [words_of_spaced h]

end PedestrianControl.Text
