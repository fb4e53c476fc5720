import PedestrianControl.Proofs.Wire.Recursion
import PedestrianControl.Proofs.Wire.Size

/-!
# What is read has no more parts than bytes

Counts of up to `2 ^ 31 - 1` come over the wire, for lists inside compounds inside compounds and for the results of a
step. What a reader gives is bounded by what it took all the same: every command and every response, every element of a
list, every typed value at any depth, every point, every variable and every result counts as a part, and there are no
more parts than bytes (`Decoder.charges_typed`, `Decoder.charges_command`, `Decoder.charges_response`). A count beyond
the bytes behind it is therefore refused (`Shrinks.refusesCounts`). The parts are compared with what is written of the
value, which is what was taken of it.
-/

namespace PedestrianControl

/-! ## Parts -/

namespace TypedValue

mutual

/-- The number of values, points and elements of lists in a value, itself included. An item of a compound is an element
of a list and a value. -/
def parts : TypedValue → Nat
  | polygon points => 1 + points.length
  | stringList texts => 1 + texts.length
  | compound items => 1 + itemsParts items
  | _ => 1

/-- The same for all items of a compound. -/
def itemsParts : List TypedValue → Nat
  | [] => 0
  | v :: rest => 1 + v.parts + itemsParts rest

end

/-- The parts of the items are the sum of their parts, with one for each. -/
theorem itemsParts_eq (items : List TypedValue) :
    itemsParts items = (items.map fun v => 1 + v.parts).sum := by
  induction items with
  | nil => rw [itemsParts, List.map_nil, List.sum_nil]
  | cons v rest ih => rw [itemsParts, ih, List.map_cons, List.sum_cons]

end TypedValue

/-- A command, the elements of its list, the parts of its value, and its variables. -/
def Command.parts : Command → Nat
  | load args => 1 + args.length
  | set _ _ _ value => 1 + value.parts
  | subscribe s => 1 + s.vars.length
  | _ => 1

/-- A result, its variables, and the parts of their values. -/
def SubscriptionResult.parts (r : SubscriptionResult) : Nat :=
  1 + (r.values.map fun v => 1 + v.value.parts).sum

/-- The parts of the value or of the results in a body. -/
def Body.parts : Body → Nat
  | value report => report.value.parts
  | subscription result => result.parts
  | simStep results => (results.map SubscriptionResult.parts).sum
  | none | version _ => 0

/-- A response and the parts of its body. -/
def Response.parts (r : Response) : Nat := 1 + r.body.parts

/-! ## No more parts than bytes are written -/

/-- A unit is longer than its content. -/
theorem length_lt_length_unit (content : Bytes) : content.length < (unit content).length := by
  rw [unit]
  split
  · exact Nat.lt_succ_self _
  · rw [length_extendedUnit]
    omega

namespace Output

variable {α : Type}

/-- A list is written in four bytes and no fewer than its elements together. -/
theorem sum_le_length_list {f : α → Output} {size : α → Nat} {as : List α}
    (h : (list f as).error? = none) (hsize : ∀ a ∈ as, size a ≤ (f a).bytes.length) :
    4 + (as.map size).sum ≤ (list f as).bytes.length := by
  have hcount : (count as.length).error? = none := rfl
  have heach := error?_each_eq_none.2 (error?_list_eq_none.1 h)
  rw [list, bytes_append hcount, List.length_append]
  exact Nat.add_le_add (Nat.le_refl 4) (sum_le_length_each heach hsize)

/-- A list of texts is written in four bytes and one at least for each text. -/
theorem length_le_length_texts (texts : List String) :
    4 + texts.length ≤ (list string texts).bytes.length := by
  have hone : ∀ s ∈ texts, 1 ≤ (string s).bytes.length :=
    fun s _ => List.length_pos_iff.2 (bytes_string_ne_nil s)
  have hsum := sum_le_length_list (error?_stringList texts) hone
  rwa [List.map_const', List.sum_replicate_nat, Nat.mul_one] at hsum

/-- One byte is to spare, for the place of the value in a list. -/
theorem parts_lt_length_typed {v : TypedValue} (h : (typed v).error? = none) :
    v.parts < (typed v).bytes.length := by
  induction v using TypedValue.induction with
  | compound items ih =>
    have hlist : (list typed items).error? = none := by
      rw [error?_typed, value, typedItems_eq_each] at h
      exact h
    have hitems := error?_list_eq_none.1 hlist
    have hsize : ∀ v ∈ items, 1 + v.parts ≤ (typed v).bytes.length := by
      intro v hv
      have hlt := ih v hv (hitems v hv)
      omega
    have hsum := sum_le_length_list hlist hsize
    have hbytes : (typed (.compound items)).bytes = DataType.compound.code :: (list typed items).bytes := by
      rw [bytes_typed, value, typedItems_eq_each]
      rfl
    rw [hbytes, List.length_cons, TypedValue.parts, TypedValue.itemsParts_eq]
    omega
  | leaf v hleaf =>
    rw [bytes_typed, List.length_cons]
    cases v with
    | polygon points =>
      rw [error?_typed, value] at h
      obtain ⟨hcount, hpoints⟩ := error?_append_eq_none.1 h
      have hone : (shortCount points.length .tooManyPoints).bytes.length = 1 := by
        rw [shortCount, if_pos (error?_shortCount_eq_none.1 hcount)]
        rfl
      have hle := length_le_length_each hpoints fun _ _ => List.cons_ne_nil _ _
      rw [value, bytes_append hcount, List.length_append, TypedValue.parts]
      omega
    | stringList texts =>
      have hle := length_le_length_texts texts
      rw [value, TypedValue.parts]
      omega
    | compound items => exact absurd rfl (hleaf items)
    | _ => exact Nat.succ_lt_succ (Nat.succ_pos _)

/-- A command has no more parts than its content has bytes. -/
theorem parts_le_length_commandContent {c : Command} (h : (commandContent c).error? = none) :
    c.parts ≤ (commandContent c).bytes.length := by
  have hlayout : (commandLayout c).error? = none := (error?_append_eq_none.1 h).2
  have hbytes : (commandContent c).bytes.length = 1 + (commandLayout c).bytes.length := Nat.add_comm _ _
  rw [hbytes]
  cases c with
  | load args =>
    have hle := length_le_length_texts args
    rw [Command.parts, commandLayout]
    omega
  | set o var element value =>
    rw [commandLayout] at hlayout
    obtain ⟨hfields, hvalue⟩ := error?_append_eq_none.1 hlayout
    have hlt := parts_lt_length_typed hvalue
    rw [Command.parts, commandLayout, bytes_append hfields, List.length_append]
    omega
  | subscribe s =>
    have hvars : s.vars.length ≤ 255 := error?_commandContent_eq_none.1 h
    rw [Command.parts, commandLayout, if_pos hvars, bytes_append rfl, bytes_of, List.length_append]
    omega
  | _ => exact Nat.le_add_right 1 _

/-- A result of a subscription has no more parts than its content has bytes. -/
theorem parts_le_length_subscriptionContent {r : SubscriptionResult}
    (h : (subscriptionContent r).error? = none) : r.parts ≤ (subscriptionContent r).bytes.length := by
  obtain ⟨hcount, hfits⟩ := error?_subscriptionContent_eq_none.1 h
  have hsize : ∀ v ∈ r.values, 1 + v.value.parts ≤ (subscribedValue v).bytes.length := by
    intro v hv
    have hlt := parts_lt_length_typed (error?_typed_eq_none.2 (hfits v hv))
    show _ ≤ (typed v.value).bytes.length + 2
    omega
  have hvalues : (each subscribedValue r.values).error? = none :=
    error?_each_eq_none.2 fun v hv => error?_subscribedValue_eq_none.2 (hfits v hv)
  have hsum := sum_le_length_each hvalues hsize
  have hfields : (byte r.opcode.code ++ string r.element ++ byte r.values.length.toUInt8).error? = none :=
    rfl
  have hpos : 0 < (byte r.opcode.code ++ string r.element ++ byte r.values.length.toUInt8).bytes.length :=
    Nat.succ_pos _
  rw [subscriptionContent, if_pos hcount, bytes_append hfields, List.length_append, SubscriptionResult.parts]
  omega

/-- A body has no more parts than it has bytes. -/
theorem parts_le_length_responseBody {body : Body} (h : (responseBody body).error? = none) :
    body.parts ≤ (responseBody body).bytes.length := by
  cases body with
  | none => exact Nat.zero_le _
  | version info => exact Nat.zero_le _
  | value report =>
    rw [responseBody, error?_enclose] at h
    have hlt := parts_lt_length_typed (error?_append_eq_none.1 h).2
    have hunit := length_lt_length_unit (valueContent report).bytes
    rw [length_valueContent] at hunit
    rw [Body.parts, responseBody, bytes_enclose h]
    omega
  | subscription result =>
    rw [responseBody, error?_enclose] at h
    have hle := parts_le_length_subscriptionContent h
    have hunit := length_lt_length_unit (subscriptionContent result).bytes
    rw [Body.parts, responseBody, bytes_enclose h]
    omega
  | simStep results =>
    have hunits := error?_list_eq_none.1 h
    have hsize : ∀ r ∈ results, r.parts ≤ ((subscriptionContent r).enclose extendedUnit).bytes.length := by
      intro r hr
      have hr' := hunits r hr
      rw [error?_enclose] at hr'
      have hle := parts_le_length_subscriptionContent hr'
      rw [bytes_enclose hr', length_extendedUnit]
      omega
    have hsum := sum_le_length_list h hsize
    exact Nat.le_trans (Nat.le_add_left _ 4) hsum

/-- A response has no more parts than it has bytes. -/
theorem parts_le_length_response {r : Response} (h : r.body.CountsFit) :
    r.parts ≤ (response r).bytes.length := by
  have hpos := List.length_pos_iff.2 (unit_ne_nil (statusContent r.status).bytes)
  have hle := parts_le_length_responseBody (error?_responseBody_eq_none.2 h)
  rw [bytes_response, List.length_append, Response.parts]
  omega

end Output

/-! ## No more parts than bytes are read -/

namespace Decoder

variable {α : Type}

/-- A value takes a byte for each of its parts. -/
theorem charges_typed : typed.Charges TypedValue.parts :=
  exact_typed.charges fun _ h => Nat.le_of_lt (Output.parts_lt_length_typed h)

/-- A command takes a byte for each of its parts. -/
theorem charges_command : command.Charges Command.parts := by
  intro bytes c rest h
  obtain ⟨u, hu, rfl⟩ := exists_of_command h
  have hle := Output.parts_le_length_commandContent (c := c) (by rw [hu.content_eq]; rfl)
  rw [hu.content_eq, Output.bytes_of] at hle
  rw [List.length_append, u.length_bytes]
  omega

/-- A response takes a byte for each of its parts. -/
theorem charges_response : response.Charges Response.parts := by
  intro bytes r rest h
  obtain ⟨hlegible, ⟨taken, rfl, htaken⟩, -⟩ := exists_of_response h
  have hle := Output.parts_le_length_response hlegible.countsFit
  have htaken' := htaken.length_le
  rw [List.length_append]
  omega

/-- The items of a payload together take as many bytes as the sum of their sizes. -/
theorem Items.sum_le {item : Decoder α} {size : α → Nat} (hitem : item.Charges size) {bytes : Bytes}
    {as : List α} (h : Items item bytes as) : (as.map size).sum ≤ bytes.length := by
  induction h with
  | nil => exact Nat.le_refl 0
  | cons hread _ ih =>
    have hle := hitem _ _ _ hread
    rw [List.map_cons, List.sum_cons]
    omega

/-! ## Counts beyond the bytes -/

/-- So many elements take a byte each. -/
theorem Shrinks.charges_many {item : Decoder α} (h : item.Shrinks) (n : Nat) :
    (many n item).Charges fun _ => n := by
  induction n with
  | zero =>
    intro bytes as rest has
    cases has
    exact Nat.le_of_eq (Nat.zero_add _)
  | succ n ih =>
    rw [many_succ_eq_bind]
    intro bytes as rest has
    obtain ⟨a, between, ha, hnext⟩ := eq_ok_of_bind_eq_ok has
    obtain ⟨others, between', hothers, hcons⟩ := eq_ok_of_bind_eq_ok hnext
    cases hcons
    have hlt := h _ _ _ ha
    have hle : n + rest.length ≤ between.length := ih _ _ _ hothers
    show n + 1 + rest.length ≤ bytes.length
    omega

/-- A signed number in front that is more than the bytes behind it is an error, whatever these bytes are. -/
def RefusesCounts (d : Decoder α) : Prop :=
  ∀ (count : Int32) (bytes : Bytes), bytes.length < count.toInt →
    ∃ e left, d ((Output.int32 count).bytes ++ bytes) = .error e left

/-- A count beyond the bytes behind it is refused if every element takes a byte. -/
theorem Shrinks.refusesCounts {item : Decoder α} (h : item.Shrinks) (fault : Int → ProtocolFault) :
    (counted fault fun count => many count item).RefusesCounts := by
  intro count bytes hcount
  have hnat : count.toNatClampNeg = count.toInt.toNat := rfl
  cases hread : counted fault (fun count => many count item) ((Output.int32 count).bytes ++ bytes) with
  | error e left => exact ⟨e, left, rfl⟩
  | ok as rest =>
    -- the elements that the number promises would take a byte each
    rw [counted, bind_of_ok (reads_int32 count rfl (by show 4 < 2 ^ 31; decide) bytes)] at hread
    by_cases hnegative : count < 0
    · rw [if_pos hnegative] at hread
      cases hread
    · rw [if_neg hnegative] at hread
      have hle : count.toNatClampNeg + rest.length ≤ bytes.length := h.charges_many _ _ _ _ hread
      omega

/-- Reading is bounded by the bytes. Its recursion and its loop come to an end within as many rounds as there are bytes
and one more, whatever would be read after that. Each unit, element of a list, value at any depth and result takes a
byte. What is read has no more parts than bytes were taken. And a number of elements or results that is more than the
bytes behind it is an error. -/
theorem reading_bounded :
    (∀ (bytes : Bytes) (n : Nat), bytes.length < n →
      (∀ bottom, typedRound^[n] bottom bytes = typed bytes) ∧
      (∀ bottom, ((allRound command)^[n] bottom []).run bytes = Command.parse bytes) ∧
      ∀ bottom, ((allRound response)^[n] bottom []).run bytes = Response.parse bytes) ∧
      (unit.Shrinks ∧ string.Shrinks ∧ (∀ levels, (typedWithin levels).Shrinks) ∧ typed.Shrinks ∧
        vec2.Shrinks ∧ byte.Shrinks ∧ subscribedValue.Shrinks ∧ stepResult.Shrinks ∧
        (unitOf SubscriptionResult.decode).Shrinks ∧ command.Shrinks ∧ response.Shrinks) ∧
      (typed.Charges TypedValue.parts ∧
        (∀ payload cs, Command.parse payload = .ok cs → (cs.map Command.parts).sum ≤ payload.length) ∧
        ∀ payload rs, Response.parse payload = .ok rs → (rs.map Response.parts).sum ≤ payload.length) ∧
      ((list string).RefusesCounts ∧ (∀ levels, (list (typedWithin levels)).RefusesCounts) ∧
        stepResults.RefusesCounts) := by
  refine ⟨fun bytes n hn => ⟨fun bottom => iterate_typedRound bottom hn, fun bottom => ?_, fun bottom => ?_⟩,
    ⟨shrinks_unit, shrinks_string, shrinks_typedWithin, shrinks_typed, shrinks_vec2, shrinks_byte,
      shrinks_subscribedValue, shrinks_stepResult, shrinks_unitOf _, shrinks_command, shrinks_response⟩,
    ⟨charges_typed, fun payload cs h => ?_, fun payload rs h => ?_⟩,
    shrinks_string.refusesCounts _, fun levels => (shrinks_typedWithin levels).refusesCounts _,
    shrinks_stepResult.refusesCounts _⟩
  · rw [run, iterate_allRound shrinks_command bottom hn]
    rfl
  · rw [run, iterate_allRound shrinks_response bottom hn]
    rfl
  · exact ((run_all_eq_ok_iff shrinks_command).1 h).sum_le charges_command
  · exact ((run_all_eq_ok_iff shrinks_response).1 h).sum_le charges_response

/-- A value with a compound in a compound, a payload with the same value in a set, and the answer to a step; and the
greatest number of texts in front of a single one. -/
theorem reading_bounded_nested :
    let value := TypedValue.compound [.compound [.polygon [0]], .stringList ["", "a"]]
    let bytes := (Output.typed value).bytes
    let cs : List Command := [.set .setPerson 0x42 "1" value, .close]
    let payload := cs.flatMap fun c => (Output.command c).bytes
    let rs : List Response :=
      [.simStep [⟨.subscribePersonResponse, "1", [⟨0x42, .ok, .ubyte 7⟩]⟩], .ok .close]
    let replies := rs.flatMap fun r => (Output.response r).bytes
    (typed bytes = .ok value [] ∧ value.parts = 10 ∧ value.parts + 0 ≤ bytes.length ∧
      ∀ bottom, typedRound^[bytes.length + 1] bottom bytes = typed bytes) ∧
      (Command.parse payload = .ok cs ∧ (cs.map Command.parts).sum ≤ payload.length) ∧
      (Response.parse replies = .ok rs ∧ (rs.map Response.parts).sum ≤ replies.length) ∧
      ∃ e left, list string ((Output.int32 2147483647).bytes ++ [0, 0, 0, 1, 0x61]) = .error e left := by
  intro value bytes cs payload rs replies
  have htyped : typed bytes = .ok value [] := rfl
  have hall : all command payload = .ok cs [] := all_command_flatMap (by decide +kernel)
  have hcommands : Command.parse payload = .ok cs := by
    rw [Command.parse, run, hall]
    rfl
  have hresponses : Response.parse replies = .ok rs := rfl
  obtain ⟨hrounds, -, ⟨hvalue, hparse, hreplies⟩, hrefuses, -⟩ := reading_bounded
  exact ⟨⟨htyped, rfl, hvalue _ _ _ htyped, (hrounds bytes _ (Nat.lt_succ_self _)).1⟩,
    ⟨hcommands, hparse _ _ hcommands⟩, ⟨hresponses, hreplies _ _ hresponses⟩,
    hrefuses _ _ (by decide)⟩

end Decoder

end PedestrianControl
