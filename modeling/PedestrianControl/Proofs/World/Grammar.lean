import Mathlib.Data.List.Forall2
import Mathlib.Data.List.Induction
import PedestrianControl.Proofs.Text.Division
import PedestrianControl.Proofs.World.Written
import PedestrianControl.World.Scenario

/-!
# The grammar of scenarios

`Scenario.Says` tells of a single line what it says, from the words in front of its comment, and `Scenario.Told`
of lines what they say together: each says something, and no identifier is given twice. A text is read exactly
if its lines are told, and what is read is what they say, one after the other (`Scenario.parse_eq_told`).
Otherwise there is a first line that spoils it, and the fault has this line's number.

Reading keeps the identifiers met so far, the grammar compares all of them at the end. `Scenario.ofLines_append`
brings the two together: behind lines that are told, reading goes on as if it had begun with what they say.
-/

namespace PedestrianControl.Scenario

/-! ## What lines say -/

/-- What stands before the first `#` of a line consists of these words. -/
def Reads (line : List Char) (words : List (List Char)) : Prop :=
  Text.Spaced (line.takeWhile (· != '#')) words

/-- What a line says, with no regard to other lines. -/
inductive Says (line : List Char) : Directive → Prop
  | blank (h : Reads line []) : Says line .blank
  | stepLength {value : List Char} {seconds : Double} (h : Reads line ["step_length".toList, value])
      (hseconds : Decimal.double? value = some seconds) (hpositive : seconds.isPositive = true) :
      Says line (.stepLength seconds)
  | pedestrian {id x y speed targetX targetY : List Char} {p : Pedestrian}
      (h : Reads line ["pedestrian".toList, id, x, y, speed, targetX, targetY])
      (hid : Decimal.int32? id = some p.id)
      (hx : Decimal.double? x = some p.position.x) (hy : Decimal.double? y = some p.position.y)
      (hspeed : Decimal.double? speed = some p.speed)
      (htargetX : Decimal.double? targetX = some p.target.x)
      (htargetY : Decimal.double? targetY = some p.target.y)
      (hradius : p.radius = Pedestrian.defaultRadius) (hvelocity : p.velocity = 0) :
      Says line (.pedestrian p)

/-- The pedestrian of a directive for one. -/
def Directive.pedestrian? : Directive → Option Pedestrian
  | .pedestrian p => some p
  | _ => none

/-- The step length of a directive for it. -/
def Directive.stepLength? : Directive → Option Double
  | .stepLength seconds => some seconds
  | _ => none

/-- The scenario of directives: of several step lengths the last counts, and the pedestrians stay in order. -/
def ofDirectives (ds : List Directive) : Scenario where
  stepLength := (ds.filterMap Directive.stepLength?).getLast?
  pedestrians := ds.filterMap Directive.pedestrian?

/-- The identifiers that directives give to pedestrians, in order. -/
def identifiers (ds : List Directive) : List Int32 := (ofDirectives ds).pedestrians.map (·.id)

/-- The lines say the directives, and each pedestrian has an identifier of its own. -/
structure Told (lines : List (List Char)) (ds : List Directive) : Prop where
  each : List.Forall₂ Says lines ds
  distinct : (identifiers ds).Nodup

/-- A line that cannot come after these directives: it says nothing, or gives one of their identifiers again. -/
def Offends (ds : List Directive) (line : List Char) : Prop :=
  ∀ d, Says line d → ∃ p, d = .pedestrian p ∧ p.id ∈ identifiers ds

/-- Among the lines, numbered from one, the first that cannot come after those before it. -/
def FirstOffending (lines : List (List Char)) (number : Nat) : Prop :=
  ∃ before line after ds, lines = before ++ line :: after ∧ number = before.length + 1 ∧
    Told before ds ∧ Offends ds line

/-! ## One line -/

/-- The fields of a line are the words before its comment. -/
theorem fields_eq_iff {line : List Char} {ws : List (List Char)} : fields line = ws ↔ Reads line ws := by
  rw [fields, Text.cut_fst, Text.words_eq_iff, Reads]

/-- A field has a value exactly if its text reads as one. -/
theorem field_eq_ok_iff {α : Type} {read : List Char → Option α} {name : String} {text : List Char}
    {a : α} : field read name text = .ok a ↔ read text = some a := by
  rw [field]
  cases read text with
  | none => exact ⟨nofun, nofun⟩
  | some b => rw [Except.ok.injEq, Option.some.injEq]

/-- A directive for a pedestrian that the identifiers seen so far allow. -/
def Fresh (seen : List Int32) (d : Directive) : Prop := ∀ p, d = .pedestrian p → p.id ∉ seen

/-- A line that is read says its directive, and gives no identifier again. -/
theorem says_of_directive {seen : List Int32} {line : List Char} {d : Directive}
    (h : directive seen line = .ok d) : Says line d ∧ Fresh seen d := by
  rw [directive] at h
  split at h
  · rename_i hfields
    cases h
    exact ⟨.blank (fields_eq_iff.1 hfields), nofun⟩
  · rename_i word values hfields
    have hreads := fields_eq_iff.1 hfields
    have hword {name : String} (hname : String.ofList word = name) : word = name.toList := by
      rw [← hname, String.toList_ofList]
    dsimp only at h
    split at h
    · rename_i hname
      rw [hword hname] at hreads
      split at h
      · obtain ⟨seconds, hseconds, h⟩ := Except.eq_ok_of_bind_eq_ok h
        split at h
        · rename_i hpositive
          cases h
          exact ⟨.stepLength hreads (field_eq_ok_iff.1 hseconds) hpositive, nofun⟩
        · cases h
      · cases h
    · split at h
      · rename_i hname
        rw [hword hname] at hreads
        split at h
        · obtain ⟨id, hid, h⟩ := Except.eq_ok_of_bind_eq_ok h
          split at h
          · cases h
          · rename_i hnew
            obtain ⟨x, hx, h⟩ := Except.eq_ok_of_bind_eq_ok h
            obtain ⟨y, hy, h⟩ := Except.eq_ok_of_bind_eq_ok h
            obtain ⟨speed, hspeed, h⟩ := Except.eq_ok_of_bind_eq_ok h
            obtain ⟨targetX, htargetX, h⟩ := Except.eq_ok_of_bind_eq_ok h
            obtain ⟨targetY, htargetY, h⟩ := Except.eq_ok_of_bind_eq_ok h
            cases h
            rw [field_eq_ok_iff] at hid hx hy hspeed htargetX htargetY
            refine ⟨.pedestrian hreads hid hx hy hspeed htargetX htargetY rfl rfl, ?_⟩
            rintro _ ⟨⟩
            exact hnew
        · cases h
      · cases h

/-- A line that says a directive is read as it, unless it gives an identifier again. -/
theorem directive_of_says {seen : List Int32} {line : List Char} {d : Directive} (h : Says line d)
    (hfresh : Fresh seen d) : directive seen line = .ok d := by
  cases h with
  | blank hreads => rw [directive, fields_eq_iff.2 hreads]
  | stepLength hreads hseconds hpositive =>
    rw [directive, fields_eq_iff.2 hreads]
    simp only [String.ofList_toList, if_true, field_eq_ok_iff.2 hseconds]
    exact if_pos hpositive
  | @pedestrian _ _ _ _ _ _ p hreads hid hx hy hspeed htargetX htargetY hradius hvelocity =>
    have hname : ¬"pedestrian" = "step_length" := by decide
    have hnew : p.id ∉ seen := hfresh p rfl
    rw [directive, fields_eq_iff.2 hreads]
    simp only [String.ofList_toList, if_neg hname, if_true, field_eq_ok_iff.2 hid]
    refine (if_neg hnew).trans ?_
    simp only [field_eq_ok_iff.2 hx, field_eq_ok_iff.2 hy, field_eq_ok_iff.2 hspeed,
      field_eq_ok_iff.2 htargetX, field_eq_ok_iff.2 htargetY]
    obtain ⟨id, position, speed, target, radius, velocity⟩ := p
    dsimp only at hradius hvelocity
    rw [hradius, hvelocity]
    rfl

/-- A line is read as what it says, unless it gives an identifier that was seen before. -/
theorem directive_eq_ok_iff {seen : List Int32} {line : List Char} {d : Directive} :
    directive seen line = .ok d ↔ Says line d ∧ Fresh seen d :=
  ⟨says_of_directive, fun ⟨hsaid, hfresh⟩ => directive_of_says hsaid hfresh⟩

/-- A line that cannot come next is refused. -/
theorem exists_of_offends {ds : List Directive} {line : List Char} (h : Offends ds line) :
    ∃ fault, directive (identifiers ds) line = .error fault := by
  cases hdirective : directive (identifiers ds) line with
  | error fault => exact ⟨fault, rfl⟩
  | ok d =>
    obtain ⟨hsaid, hfresh⟩ := directive_eq_ok_iff.1 hdirective
    obtain ⟨p, hp, hmem⟩ := h d hsaid
    exact absurd hmem (hfresh p hp)

/-! ## Lines in order -/

/-- The identifiers of directives are those of the earlier ones and then those of the later. -/
theorem identifiers_append (ds es : List Directive) :
    identifiers (ds ++ es) = identifiers ds ++ identifiers es := by
  simp [identifiers, ofDirectives, List.filterMap_append]

/-- One more directive adds to the scenario what it says. -/
theorem add_ofDirectives (ds : List Directive) (d : Directive) :
    (ofDirectives ds).add d = ofDirectives (ds ++ [d]) := by
  cases d <;>
    simp [add, ofDirectives, List.filterMap_append, Directive.stepLength?, Directive.pedestrian?]

/-- A directive that keeps the identifiers distinct gives none of them again. -/
theorem fresh_of_nodup {ds : List Directive} {d : Directive} (h : (identifiers (ds ++ [d])).Nodup) :
    Fresh (identifiers ds) d := by
  rintro p rfl hmem
  rw [identifiers_append, List.nodup_append] at h
  exact h.2.2 p.id hmem p.id List.mem_cons_self rfl

/-- Behind lines that are told, reading goes on as if it had begun with what they say. -/
theorem ofLines_append (earlier : List Directive) {ds : List Directive} {before : List (List Char)}
    (hsaid : List.Forall₂ Says before ds) (hdistinct : (identifiers (earlier ++ ds)).Nodup)
    (number : Nat) (rest : List (List Char)) :
    ofLines (ofDirectives earlier) number (before ++ rest) =
      ofLines (ofDirectives (earlier ++ ds)) (number + before.length) rest := by
  induction hsaid generalizing earlier number with
  | nil => rw [List.append_nil, List.length_nil]; rfl
  | @cons line d before ds hline _ ih =>
    have hsplit : earlier ++ d :: ds = (earlier ++ [d]) ++ ds := by
      rw [List.append_assoc, List.singleton_append]
    rw [hsplit] at hdistinct ⊢
    have hfresh : Fresh (identifiers earlier) d := by
      rw [identifiers_append] at hdistinct
      exact fresh_of_nodup (List.nodup_append.1 hdistinct).1
    have hdirective : directive (identifiers earlier) line = .ok d := directive_eq_ok_iff.2 ⟨hline, hfresh⟩
    rw [List.cons_append, ofLines, show directive ((ofDirectives earlier).pedestrians.map (·.id)) line
      = .ok d from hdirective]
    dsimp only
    rw [add_ofDirectives, ih _ hdistinct, List.length_cons]
    congr 1
    omega

/-- One more line tells one more directive, if that gives no identifier again. -/
theorem Told.concat {lines : List (List Char)} {ds : List Directive} {line : List Char} {d : Directive}
    (h : Told lines ds) (hline : Says line d) (hfresh : Fresh (identifiers ds) d) :
    Told (lines ++ [line]) (ds ++ [d]) where
  each := List.rel_append h.each (.cons hline .nil)
  distinct := by
    rw [identifiers_append, List.nodup_append]
    cases d with
    | pedestrian p =>
      refine ⟨h.distinct, List.pairwise_singleton _ p.id, ?_⟩
      rintro id hid _ hp rfl
      obtain rfl := List.mem_singleton.1 hp
      exact hfresh p rfl hid
    | blank | stepLength => exact ⟨h.distinct, List.nodup_nil, fun _ _ _ hnil => by cases hnil⟩

/-- Lines are told, or there is a first among them that spoils it. -/
theorem told_or_offending (lines : List (List Char)) :
    (∃ ds, Told lines ds) ∨ ∃ number, FirstOffending lines number := by
  induction lines using List.reverseRecOn with
  | nil => exact .inl ⟨[], .nil, List.nodup_nil⟩
  | append_singleton lines line ih =>
    rcases ih with ⟨ds, htold⟩ | ⟨number, before, first, after, ds, rfl, hrest⟩
    · by_cases hoffends : Offends ds line
      · exact .inr ⟨_, lines, line, [], ds, rfl, rfl, htold, hoffends⟩
      · rw [Offends, not_forall] at hoffends
        obtain ⟨d, hoffends⟩ := hoffends
        obtain ⟨hsaid, hnot⟩ := Classical.not_imp.1 hoffends
        exact .inl ⟨_, htold.concat hsaid fun p hp hmem => hnot ⟨p, hp, hmem⟩⟩
    · exact .inr ⟨number, before, first, after ++ [line], ds, by rw [List.append_assoc]; rfl, hrest⟩

/-! ## The whole text -/

variable {text : String}

/-- A text that tells directives is read as their scenario. -/
theorem parse_of_told {ds : List Directive} (h : Told (Text.lines text.toList) ds) :
    parse text = .ok (ofDirectives ds) := by
  have hlines := ofLines_append [] h.each h.distinct 1 []
  rw [List.append_nil, List.nil_append] at hlines
  exact hlines

/-- A text with a line that cannot come next is refused with this line's number. -/
theorem parse_of_offending {number : Nat} (h : FirstOffending (Text.lines text.toList) number) :
    ∃ fault, parse text = .error (.line number fault) := by
  obtain ⟨before, line, after, ds, hlines, rfl, htold, hoffends⟩ := h
  obtain ⟨fault, hfault⟩ := exists_of_offends hoffends
  refine ⟨fault, ?_⟩
  have hbefore := ofLines_append [] htold.each htold.distinct 1 (line :: after)
  rw [← hlines, List.nil_append, ofLines,
    show directive ((ofDirectives ds).pedestrians.map (·.id)) line = .error fault from hfault] at hbefore
  rw [Nat.add_comm before.length 1]
  exact hbefore

/-- What becomes of a text is decided by its lines. -/
theorem parse_cases (text : String) :
    (∃ ds, Told (Text.lines text.toList) ds ∧ parse text = .ok (ofDirectives ds)) ∨
      ∃ number fault, FirstOffending (Text.lines text.toList) number ∧
        parse text = .error (.line number fault) := by
  rcases told_or_offending (Text.lines text.toList) with ⟨ds, htold⟩ | ⟨number, hoffending⟩
  · exact .inl ⟨ds, htold, parse_of_told htold⟩
  · obtain ⟨fault, hfault⟩ := parse_of_offending hoffending
    exact .inr ⟨number, fault, hoffending, hfault⟩

/-- In a scenario that is read, each pedestrian has an identifier of its own. -/
theorem nodup_of_parse {s : Scenario} (h : parse text = .ok s) : (s.pedestrians.map (·.id)).Nodup := by
  rcases parse_cases text with ⟨ds, htold, hok⟩ | ⟨_, _, _, herror⟩
  · obtain rfl := Except.ok.inj (h.symm.trans hok)
    exact htold.distinct
  · cases h.symm.trans herror

/-- The message of a fault in a line begins with the line's number. -/
theorem message_line (number : Nat) (fault : LineFault) :
    (Error.scenario (.line number fault)).message =
      "Scenario error: line " ++ toString number ++ ": " ++ fault.message := by
  have hstart : "Scenario error: line " = "Scenario error: " ++ "line " := by decide
  show "Scenario error: " ++ ("line " ++ toString number ++ ": " ++ fault.message) = _
  simp only [hstart, String.append_assoc]

/-- A text has lines in one way only. It is read exactly if they are told, as what they say; and it is refused
with the number of a line exactly if this is the first that offends. Nothing else is ever wrong with a text. -/
theorem parse_eq_told (text : String) :
    ∃ lines, (∀ ls, Text.Lined text.toList ls ↔ ls = lines) ∧
      (∀ s, parse text = .ok s ↔ ∃ ds, Told lines ds ∧ s = ofDirectives ds) ∧
      (∀ number, (∃ fault, parse text = .error (.line number fault)) ↔ FirstOffending lines number) ∧
      ∀ e, parse text = .error e → ∃ number fault, e = .line number fault ∧
        (Error.scenario e).message =
          "Scenario error: line " ++ toString number ++ ": " ++ fault.message := by
  refine ⟨Text.lines text.toList, fun ls => ?lined, fun s => ⟨fun hparse => ?told, ?read⟩,
    fun number => ⟨?first, parse_of_offending⟩, fun e hparse => ?message⟩
  case lined => rw [← Text.lines_eq_iff, eq_comm]
  case told =>
    rcases parse_cases text with ⟨ds, htold, hok⟩ | ⟨_, _, _, herror⟩
    · exact ⟨ds, htold, Except.ok.inj (hparse.symm.trans hok)⟩
    · cases hparse.symm.trans herror
  case read =>
    rintro ⟨ds, htold, rfl⟩
    exact parse_of_told htold
  case first =>
    rintro ⟨fault, hparse⟩
    rcases parse_cases text with ⟨_, _, hok⟩ | ⟨_, _, hoffending, herror⟩
    · cases hparse.symm.trans hok
    · cases hparse.symm.trans herror
      exact hoffending
  case message =>
    rcases parse_cases text with ⟨_, _, hok⟩ | ⟨number, fault, _, herror⟩
    · cases hparse.symm.trans hok
    · cases hparse.symm.trans herror
      exact ⟨number, fault, rfl, message_line number fault⟩

/-- A wide space, a comment that touches a number and both ends of lines are in order. The fifth line gives the
identifier of the second again, in another spelling, and comes before one that says nothing. -/
theorem parse_eq_told_repeated :
    let text := "step_length 1 # s\r\n\u2003pedestrian 7 0 0 1 5 0#x\n\n step_length\t.5\npedestrian +07 1 1 1 1 1\nwalk"
    ∃ lines, Text.Lined text.toList lines ∧ FirstOffending lines 5 ∧
      parse text = .error (.line 5 (.duplicateId 7)) := by
  intro text
  obtain ⟨lines, hlined, -, hfirst, -⟩ := parse_eq_told text
  have hparse : parse text = .error (.line 5 (.duplicateId 7)) := by decide +kernel
  exact ⟨lines, (hlined lines).2 rfl, (hfirst 5).1 ⟨_, hparse⟩, hparse⟩

end PedestrianControl.Scenario
