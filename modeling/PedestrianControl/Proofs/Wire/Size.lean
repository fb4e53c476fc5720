import PedestrianControl.Proofs.Text.Size
import PedestrianControl.Proofs.Wire.Response

/-!
# How long the parts of a reply are

What an encoder puts out is at most as long as what its parts put out, and shorter if a fault stops it
(`Output.length_append_le`, `Output.length_each_le`). A unit adds at most the five bytes of its header, whichever
form its length has. So the length of a response is bounded by that of its texts and values
(`Output.length_response_le`), and that of a payload by the responses in it (`Response.length_encodeAll_le`).
-/

namespace PedestrianControl

namespace Output

variable {α : Type}

/-! ## Joining -/

/-- One output after another takes no more bytes than both. -/
theorem length_append_le (a b : Output) : (a ++ b).bytes.length ≤ a.bytes.length + b.bytes.length := by
  rcases a with ⟨bytes, _ | e⟩
  · rw [mk_none_append]
    exact Nat.le_of_eq List.length_append
  · rw [mk_some_append]
    exact Nat.le_add_right _ _

/-- Outputs one after another take no more than the room of each, added up. -/
theorem length_each_le {f : α → Output} {room : α → Nat} {as : List α}
    (h : ∀ a ∈ as, (f a).bytes.length ≤ room a) : (each f as).bytes.length ≤ (as.map room).sum := by
  induction as with
  | nil => exact Nat.le_refl 0
  | cons a rest ih =>
    obtain ⟨ha, hrest⟩ := List.forall_mem_cons.1 h
    rw [each, List.map_cons, List.sum_cons]
    exact Nat.le_trans (length_append_le _ _) (Nat.add_le_add ha (ih hrest))

/-- A list takes at most four bytes more than the room of its elements. -/
theorem length_list_le {f : α → Output} {room : α → Nat} {as : List α}
    (h : ∀ a ∈ as, (f a).bytes.length ≤ room a) :
    (list f as).bytes.length ≤ 4 + (as.map room).sum :=
  Nat.le_trans (length_append_le _ _) (Nat.add_le_add (Nat.le_refl 4) (length_each_le h))

/-- One output so many times takes so many times its bytes. -/
theorem length_each_replicate {f : α → Output} {a : α} (h : (f a).error? = none) (n : Nat) :
    (each f (List.replicate n a)).bytes.length = n * (f a).bytes.length := by
  have herr : ∀ b ∈ List.replicate n a, (f b).error? = none :=
    fun b hb => List.eq_of_mem_replicate hb ▸ h
  rw [bytes_each herr, List.length_flatMap, List.map_replicate, List.sum_replicate_nat]

/-! ## Units -/

/-- A unit in the longer form takes five bytes more than its content. -/
theorem length_unit_of_lt {content : Bytes} (h : shortUnitLimit < content.length) :
    (unit content).length = content.length + 5 := by
  rw [unit, if_neg (Nat.not_le_of_lt h), length_extendedUnit]

/-- A unit takes at most five bytes more than its content, in either form. -/
theorem length_unit_le (content : Bytes) : (unit content).length ≤ content.length + 5 := by
  rw [unit]
  split
  · rw [List.length_cons]
    exact Nat.add_le_add_left (by decide) _
  · exact Nat.le_of_eq (length_extendedUnit content)

/-- To enclose an output in a unit takes at most five bytes. -/
theorem length_enclose_le {f : Bytes → Bytes} (hf : ∀ content, (f content).length ≤ content.length + 5)
    (o : Output) : (o.enclose f).bytes.length ≤ o.bytes.length + 5 := by
  rcases o with ⟨bytes, _ | e⟩
  · exact hf bytes
  · exact Nat.zero_le _

/-! ## Values -/

/-- A string takes four bytes more than its text. -/
theorem length_string (s : String) : (string s).bytes.length = s.utf8ByteSize + 4 := by
  show (Utf8.encode s).length + 4 = _
  rw [Utf8.length_encode]

theorem length_typed_integer (n : Int32) : (typed (.integer n)).bytes.length = 5 := rfl

theorem length_typed_double (d : Double) : (typed (.double d)).bytes.length = 9 := rfl

theorem length_typed_pos2d (p : Vec2) : (typed (.pos2d p)).bytes.length = 17 := rfl

theorem length_typed_pos3d (p : Vec3) : (typed (.pos3d p)).bytes.length = 25 := rfl

/-- A string with its type takes five bytes more than its text. -/
theorem length_typed_string (s : String) : (typed (.string s)).bytes.length = s.utf8ByteSize + 5 := by
  rw [bytes_typed, value, List.length_cons, length_string]

/-- A list of texts takes for each what the longest may take. -/
theorem length_typed_stringList_le {texts : List String} {n : Nat}
    (h : ∀ s ∈ texts, s.utf8ByteSize ≤ n) :
    (typed (.stringList texts)).bytes.length ≤ 5 + texts.length * (n + 4) := by
  have htexts : ∀ s ∈ texts, (string s).bytes.length ≤ n + 4 := by
    intro s hs
    rw [length_string]
    exact Nat.add_le_add_right (h s hs) 4
  have hlist := length_list_le htexts
  rw [List.map_const', List.sum_replicate_nat] at hlist
  rw [bytes_typed, value, List.length_cons]
  omega

/-! ## Responses -/

/-- A status takes six bytes more than its description. -/
theorem length_statusContent (s : Status) :
    (statusContent s).bytes.length = s.description.utf8ByteSize + 6 := by
  show (string s.description).bytes.length + 2 = _
  rw [length_string]

/-- A version takes nine bytes more than its text. -/
theorem length_versionContent (info : VersionInfo) :
    (versionContent info).bytes.length = info.identifier.utf8ByteSize + 9 := by
  show (string info.identifier).bytes.length + 5 = _
  rw [length_string]

/-- A value takes six bytes more than the id and the value itself. -/
theorem length_valueContent (report : ValueReport) :
    (valueContent report).bytes.length =
      report.element.utf8ByteSize + (typed report.value).bytes.length + 6 := by
  show ((string report.element).bytes ++ (typed report.value).bytes).length + 2 = _
  rw [List.length_append, length_string]
  omega

/-- A result is its element and, one after the other, its values. -/
theorem length_subscriptionContent_le {r : SubscriptionResult} {n : Nat}
    (h : ∀ v ∈ r.values, (typed v.value).bytes.length ≤ n) :
    (subscriptionContent r).bytes.length ≤ r.element.utf8ByteSize + 6 + r.values.length * (n + 2) := by
  have hvalues : ∀ v ∈ r.values, (subscribedValue v).bytes.length ≤ n + 2 :=
    fun v hv => Nat.add_le_add_right (h v hv) 2
  have heach := length_each_le hvalues
  rw [List.map_const', List.sum_replicate_nat] at heach
  rw [subscriptionContent]
  split
  · refine Nat.le_trans (length_append_le _ _) ?_
    have hhead : (byte r.opcode.code ++ string r.element ++ byte r.values.length.toUInt8).bytes.length
        ≤ r.element.utf8ByteSize + 6 := by
      refine Nat.le_trans (length_append_le _ _) ?_
      have hstring := length_string r.element
      show (string r.element).bytes.length + 1 + 1 ≤ _
      omega
    exact Nat.add_le_add hhead heach
  · exact Nat.zero_le _

/-- Of a value that is reported many times over, every report takes as much. -/
theorem length_subscriptionContent_replicate (o : Opcode) (element : String) {v : SubscribedValue}
    (hv : v.value.PolygonsFit) {n : Nat} (hn : n ≤ 255) :
    (subscriptionContent ⟨o, element, List.replicate n v⟩).bytes.length =
      element.utf8ByteSize + 6 + n * ((typed v.value).bytes.length + 2) := by
  have hfit : (List.replicate n v).length ≤ 255 := by rwa [List.length_replicate]
  have hhead : (byte o.code ++ string element ++ byte (List.replicate n v).length.toUInt8).bytes.length
      = element.utf8ByteSize + 6 := by
    show ((string element).bytes ++ [_]).length + 1 = _
    rw [List.length_append, length_string]
    rfl
  rw [subscriptionContent, if_pos hfit, bytes_append rfl, List.length_append, hhead,
    length_each_replicate (error?_subscribedValue_eq_none.2 hv)]
  rfl

/-- The status of a response is a unit, and its body comes behind it. -/
theorem length_response_le (r : Response) :
    (response r).bytes.length ≤
      r.status.description.utf8ByteSize + 11 + (responseBody r.body).bytes.length := by
  have hstatus := length_enclose_le length_unit_le (statusContent r.status)
  rw [length_statusContent] at hstatus
  exact Nat.le_trans (length_append_le _ _) (Nat.add_le_add_right hstatus _)

/-- A response without a body takes little more than its description. -/
theorem length_bare_response_le (s : Status) :
    (response ⟨s, .none⟩).bytes.length ≤ s.description.utf8ByteSize + 11 :=
  length_response_le ⟨s, .none⟩

/-- A bare success takes eleven bytes at most. -/
theorem length_ok_le (o : Opcode) : (response (.ok o)).bytes.length ≤ 11 :=
  length_bare_response_le _

/-- A response with a body takes seven bytes more than the body. -/
theorem length_withBody (o : Opcode) (body : Body) :
    (response (.withBody o body)).bytes.length = 7 + (responseBody body).bytes.length := by
  rw [bytes_response, List.length_append]
  rfl

/-- A response with a body takes at most eleven bytes more than what the body may take. -/
theorem length_withBody_le {o : Opcode} {body : Body} {n : Nat}
    (h : (responseBody body).bytes.length ≤ n) :
    (response (.withBody o body)).bytes.length ≤ 11 + n := by
  rw [length_withBody]
  omega

end Output

/-- A payload is no longer than the room for the responses in it. -/
theorem Response.length_encodeAll_le {rs : List Response} {payload : Bytes}
    (h : Response.encodeAll rs = .ok payload) {room : Response → Nat}
    (hroom : ∀ r ∈ rs, (Output.response r).bytes.length ≤ room r) :
    payload.length ≤ (rs.map room).sum := by
  obtain ⟨-, rfl⟩ := Output.result_eq_ok_iff.1 h
  exact Output.length_each_le hroom

end PedestrianControl
