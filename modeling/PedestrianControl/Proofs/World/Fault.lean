import PedestrianControl.Proofs.Text.Size
import PedestrianControl.World.Scenario

/-!
# How long the fault of a scenario is

What is wrong with a scenario is told with the word that is wrong, and so it can be about as long as the scenario
itself (`Scenario.size_message_of_parse`), but not much longer.
-/

namespace PedestrianControl

/-! ## One line -/

namespace LineFault

/-- The message of an unknown directive takes twenty bytes more than its word. -/
theorem size_unknownDirective (word : String) :
    (unknownDirective word).message.utf8ByteSize = word.utf8ByteSize + 20 :=
  Text.size_within "unknown directive '" word "'"

/-- The message of a wrong number of values takes the directive, both numbers and 22 bytes more. -/
theorem size_wrongArity (directive : String) (expected found : Nat) :
    (wrongArity directive expected found).message.utf8ByteSize =
      directive.utf8ByteSize + expected.repr.utf8ByteSize + found.repr.utf8ByteSize + 22 := by
  have hquote : "'".utf8ByteSize = 1 := rfl
  have htakes : "' takes ".utf8ByteSize = 8 := rfl
  have hgot : " values, got ".utf8ByteSize = 13 := rfl
  show ("'" ++ directive ++ "' takes " ++ expected.repr ++ " values, got " ++ found.repr).utf8ByteSize = _
  simp only [String.utf8ByteSize_append]
  omega

/-- The message of an invalid field takes its name, its text and eleven bytes more. -/
theorem size_invalidField (name text : String) :
    (invalidField name text).message.utf8ByteSize = name.utf8ByteSize + text.utf8ByteSize + 11 := by
  show ("invalid " ++ name ++ " '" ++ text ++ "'").utf8ByteSize = _
  rw [String.utf8ByteSize_append, Text.size_pair]
  rfl

/-- The message of a duplicate id takes 24 bytes more than the id. -/
theorem size_duplicateId (id : Int) :
    (duplicateId id).message.utf8ByteSize = (toString id).utf8ByteSize + 24 :=
  Text.size_behind "duplicate pedestrian id " (toString id)

end LineFault

namespace Scenario

open Text (ToldWithin)

variable {α : Type}

/-- A field is read, or refused within the size of its name and its text. -/
theorem toldWithin_field {n : Nat} (read : List Char → Option α) {name : String} {text : List Char}
    (h : name.utf8ByteSize + (String.ofList text).utf8ByteSize + 11 ≤ n) :
    ToldWithin LineFault.message n (field read name text) := by
  rw [field]
  split
  · exact .ok _
  · refine .error ?_
    rwa [LineFault.size_invalidField]

/-- A wrong number of values is refused within the size of the directive and of that number. -/
theorem toldWithin_wrongArity {n : Nat} {name : String} {expected found : Nat} (hexpected : expected < 10)
    (h : name.utf8ByteSize + found + 24 ≤ n) :
    ToldWithin LineFault.message n (.error (.wrongArity name expected found) : Except _ α) := by
  have hone : expected.repr.utf8ByteSize ≤ 1 := Text.size_repr_le (by decide) hexpected
  have hfound := Text.size_repr_le_succ found
  refine .error ?_
  rw [LineFault.size_wrongArity]
  omega

/-- The words of a line are cut out of it, and there are no more than it has characters. -/
theorem size_fields_le (line : List Char) :
    (∀ word ∈ fields line, (String.ofList word).utf8ByteSize ≤ (String.ofList line).utf8ByteSize) ∧
      (fields line).length ≤ (String.ofList line).utf8ByteSize := by
  have hcut := Text.cut_fst_sublist '#' line
  refine ⟨fun word hword => ?_, ?_⟩
  · exact Text.size_ofList_le_of_sublist ((Text.sublist_of_mem_words hword).trans hcut)
  · exact Nat.le_trans (Text.length_words_le _)
      (Nat.le_trans hcut.length_le (Text.length_le_size line))

/-- The fault of a line is told with at most one word of it. -/
theorem toldWithin_directive (seen : List Int32) (line : List Char) :
    ToldWithin LineFault.message ((String.ofList line).utf8ByteSize + 64) (directive seen line) := by
  obtain ⟨hsize, hlength⟩ := size_fields_le line
  rw [directive]
  cases hfields : fields line with
  | nil => exact .ok _
  | cons word values =>
    rw [hfields] at hsize hlength
    obtain ⟨hword, hvalues⟩ := List.forall_mem_cons.1 hsize
    rw [List.length_cons] at hlength
    have hfield {β : Type} (read : List Char → Option β) {name : String} {text : List Char}
        (hname : name.utf8ByteSize ≤ 11) (htext : text ∈ values) :
        ToldWithin LineFault.message ((String.ofList line).utf8ByteSize + 64) (field read name text) := by
      have := hvalues text htext
      exact toldWithin_field read (by omega)
    have harity {β : Type} {name : String} {expected : Nat} (hname : name.utf8ByteSize ≤ 11)
        (hexpected : expected < 10) : ToldWithin LineFault.message ((String.ofList line).utf8ByteSize + 64)
          (.error (.wrongArity name expected values.length) : Except _ β) :=
      toldWithin_wrongArity hexpected (by omega)
    dsimp only
    split
    · rename_i hname
      rw [hname]
      split
      · refine (hfield _ (by decide) List.mem_cons_self).bind fun seconds _ => ?_
        split
        · exact .ok _
        · exact .error (Nat.le_trans (by decide : _ ≤ 64) (Nat.le_add_left _ _))
      · exact harity (by decide) (by decide)
    · split
      · rename_i hname
        rw [hname]
        split
        · rename_i id x y speed targetX targetY
          refine (hfield _ (by decide) (by simp)).bind fun id _ => ?_
          split
          · refine .error ?_
            have := Text.size_toString_int32_le id
            rw [LineFault.size_duplicateId]
            omega
          · refine (hfield _ (by decide) (by simp)).bind fun x _ => ?_
            refine (hfield _ (by decide) (by simp)).bind fun y _ => ?_
            refine (hfield _ (by decide) (by simp)).bind fun speed _ => ?_
            refine (hfield _ (by decide) (by simp)).bind fun targetX _ => ?_
            exact (hfield _ (by decide) (by simp)).bind fun targetY _ => .ok _
        · exact harity (by decide) (by decide)
      · refine .error ?_
        rw [LineFault.size_unknownDirective]
        omega

/-! ## The whole text -/

/-- A fault is that of one of the lines, and its number is one of theirs. -/
theorem exists_of_ofLines_error {s : Scenario} {number : Nat} {rest : List (List Char)}
    {fault : ScenarioFault} (h : ofLines s number rest = .error fault) :
    ∃ n line seen lineFault, n < number + rest.length ∧ line ∈ rest ∧
      directive seen line = .error lineFault ∧ fault = .line n lineFault := by
  induction rest generalizing s number with
  | nil => cases h
  | cons line rest ih =>
    rw [ofLines] at h
    split at h
    · rename_i lineFault hdirective
      cases h
      exact ⟨number, line, _, lineFault, by rw [List.length_cons]; omega, List.mem_cons_self,
        hdirective, rfl⟩
    · obtain ⟨n, other, seen, lineFault, hn, hother, hdirective, hfault⟩ := ih h
      exact ⟨n, other, seen, lineFault, by rw [List.length_cons]; omega,
        List.mem_cons_of_mem _ hother, hdirective, hfault⟩

/-- What is wrong with a text is told in at most twice its bytes and a few more. -/
theorem size_message_of_parse {text : String} {fault : ScenarioFault} (h : parse text = .error fault) :
    fault.message.utf8ByteSize ≤ 2 * text.utf8ByteSize + 80 := by
  obtain ⟨n, line, seen, lineFault, hn, hline, hdirective, rfl⟩ := exists_of_ofLines_error h
  have hlines := Text.length_lines_le text.toList
  have hlength := Text.length_le_size text.toList
  have hcut := Text.size_ofList_le_of_sublist (Text.sublist_of_mem_lines hline)
  have hfault := toldWithin_directive seen line lineFault hdirective
  rw [String.ofList_toList] at hlength hcut
  have hnumber := Text.size_repr_le_succ n
  have hmessage : (ScenarioFault.line n lineFault).message.utf8ByteSize =
      n.repr.utf8ByteSize + lineFault.message.utf8ByteSize + 7 :=
    Text.size_pair "line " n.repr ": " lineFault.message
  omega

end Scenario

end PedestrianControl
