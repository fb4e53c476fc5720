import PedestrianControl.Proofs.Wire.Accepted
import PedestrianControl.Proofs.Wire.Response

/-!
# What a parser of responses accepts

The converse of `Proofs.Wire.Response`, over all bytes: a payload that is parsed consists of one piece for
each response, a unit with its status and the bytes of its body, and what is written of the responses is
parsed as the same responses (`Response.exists_encodeAll_of_parse`).

Nothing is assumed of the statuses here, not even that their opcodes are those of commands. So a status may
look like the body of the response in front of it, and how a payload is read depends on what a look ahead
finds. Writing the responses again may shorten the units that are ahead, but every look finds the same
(`Decoder.AheadAlike`).
-/

namespace PedestrianControl

/-! ## Contents -/

namespace Decoder

variable {α : Type}

/-- A result code is read from its byte and nothing else. -/
theorem exact_resultCode : resultCode.Exact fun r => .byte r.code := by
  refine exact_byte.bind fun code => ?_
  cases hr : ResultCode.ofCode? code with
  | none => exact completes_throw _ _
  | some r => exact Completes.pure (by rw [ResultCode.code_of_ofCode? hr]; rfl)

/-- An opcode of a response is read from its code and nothing else. -/
theorem exact_responseOpcode : responseOpcode.Exact fun o => .byte o.code := by
  refine exact_opcode.bind fun o => ?_
  by_cases ho : o.category = .response
  · rw [if_pos ho]
    exact Completes.pure rfl
  · rw [if_neg ho]
    exact completes_throw _ _

/-- An opcode of a response is of the category of responses. -/
theorem gives_responseOpcode : responseOpcode.Gives fun o => o.category = .response := by
  refine gives_bind fun o => ?_
  by_cases ho : o.category = .response
  · rw [if_pos ho]
    exact Gives.pure ho
  · rw [if_neg ho]
    exact gives_throw _

/-- A content that is read to its end is that of the status. -/
theorem finishes_statusContent : statusContent.Finishes (.of []) .statusContent :=
  Completes.bind_finishes exact_opcode fun _ => (exact_resultCode.after _).bind_finishes fun _ =>
    (exact_string.after _).bind_finishes fun _ => finishes_finished rfl

/-- A content that is read to its end is that of the version. -/
theorem finishes_versionContent : versionContent.Finishes (.of []) .versionContent := by
  refine Completes.bind_finishes exact_opcode fun o => ?_
  by_cases ho : o = .getVersion
  · rw [if_neg (not_not_intro ho), ho]
    exact (exact_int32.after _).bind_finishes fun _ => (exact_string.after _).bind_finishes fun _ =>
      finishes_finished rfl
  · rw [if_pos ho]
    intro bytes a rest h
    cases h

/-- A content that is read to its end is that of the value. -/
theorem finishes_valueContent : valueContent.Finishes (.of []) .valueContent :=
  Completes.bind_finishes exact_responseOpcode fun _ => (exact_byte.after _).bind_finishes fun _ =>
    (exact_string.after _).bind_finishes fun _ => (exact_typed.after _).bind_finishes fun _ =>
      finishes_finished rfl

/-- A value is reported under an opcode of a response. -/
theorem gives_valueContent : valueContent.Gives fun report => report.opcode.category = .response :=
  gives_responseOpcode.bind fun _ ho => gives_bind fun _ => gives_bind fun _ => gives_bind fun _ =>
    gives_bind fun _ => Gives.pure ho

/-- A subscribed value is read from what is written of it and nothing else. -/
theorem exact_subscribedValue : subscribedValue.Exact .subscribedValue :=
  exact_byte.bind fun _ => exact_resultCode.bind fun _ => exact_typed.bind fun _ => Completes.pure rfl

/-- A content that is read to its end is that of the result of a subscription. -/
theorem finishes_subscriptionContent :
    subscriptionContent.Finishes (.of []) .subscriptionContent := by
  refine Completes.bind_finishes exact_responseOpcode fun o =>
    (exact_string.after _).bind_finishes fun element => (exact_byte.after _).bind_finishes fun count =>
      ((exact_many exact_subscribedValue count.toNat).after _).bind_gives_finishes (gives_many _ _) ?_
  intro values hvalues
  refine finishes_finished ?_
  -- the number of values that is written is the one that was read
  have hcount := count.toNat_lt
  have hfits : values.length ≤ 255 := by omega
  have hbyte : values.length.toUInt8 = count := by
    rw [hvalues, Nat.toUInt8_eq, UInt8.ofNat_toNat]
  rw [Output.subscriptionContent, if_pos hfits, hbyte]

/-- A result of a subscription is reported under an opcode of a response. -/
theorem gives_subscriptionContent :
    subscriptionContent.Gives fun result => result.opcode.category = .response :=
  gives_responseOpcode.bind fun _ ho => gives_bind fun _ => gives_bind fun _ => gives_bind fun _ =>
    gives_bind fun _ => Gives.pure ho

/-- What a reader of its own takes from a unit's content is written as this content. -/
theorem Finishes.exists_of_unitOf {d : Decoder α} {write : α → Output} (h : d.Finishes (.of []) write)
    {bytes rest : Bytes} {a : α} (ha : unitOf d.run bytes = .ok a rest) :
    ∃ u : PlacedUnit, write a = .of u.content ∧ bytes = u.bytes ++ rest := by
  obtain ⟨u, hread, hbytes⟩ := Decoder.exists_of_unitOf ha
  exact ⟨u, h.of_run hread, hbytes⟩

end Decoder

/-! ## The results of a step -/

/-- A unit that begins with a zero byte has its length in the longer form. -/
theorem PlacedUnit.bytes_of_head?_eq_zero {u : PlacedUnit} (h : u.bytes.head? = some 0) :
    u.bytes = extendedUnit u.content := by
  obtain ⟨form, content, hfits⟩ := u
  cases form with
  | short =>
    have hlt : content.length ≤ 254 := hfits
    have hzero := congrArg UInt8.toNat (Option.some.inj h)
    rw [Decoder.toNat_toUInt8 (Nat.succ_le_succ hlt)] at hzero
    exact absurd hzero (Nat.succ_ne_zero _)
  | extended => rfl

/-- A subscription's result whose opcode is that of a reply and whose lists and content fit. -/
structure SubscriptionResult.Legible (r : SubscriptionResult) : Prop where
  ofReply : r.opcode.category = .response
  countsFit : r.CountsFit
  contentFits : (Output.subscriptionContent r).bytes.length ≤ unitLimit

/-- A result that was read has the opcode of a reply, and its lists and content fit. -/
theorem SubscriptionResult.Legible.of_decode {r : SubscriptionResult} {u : PlacedUnit}
    (h : SubscriptionResult.decode u.content = .ok r) : r.Legible := by
  have hwrite := Decoder.finishes_subscriptionContent.of_run h
  refine ⟨Decoder.gives_subscriptionContent.of_run h, ?_, ?_⟩
  · exact Output.error?_subscriptionContent_eq_none.1 (by rw [hwrite]; rfl)
  · rw [hwrite]
    exact u.length_content_le

namespace Decoder

variable {α : Type} {P : α → Prop}

/-- A result of a step is read from the content of a unit in the longer form. -/
theorem exists_of_stepResult {bytes rest : Bytes} {r : SubscriptionResult}
    (h : stepResult bytes = .ok r rest) :
    ∃ u : PlacedUnit, SubscriptionResult.decode u.content = .ok r ∧
      bytes = extendedUnit u.content ++ rest := by
  obtain ⟨marker, between, hmarker, hnext⟩ := eq_ok_of_bind_eq_ok h
  cases bytes with
  | nil => cases hmarker
  | cons first bytes =>
    cases hmarker
    by_cases hzero : marker = 0
    · rw [if_neg (not_not_intro hzero)] at hnext
      obtain ⟨u, hread, hbytes⟩ := exists_of_unitOf hnext
      have hhead : u.bytes.head? = some 0 := by
        obtain ⟨b, others, hu⟩ := List.exists_cons_of_ne_nil u.bytes_ne_nil
        rw [hu] at hbytes ⊢
        rw [← (List.cons.inj hbytes).1, hzero]
        rfl
      rw [PlacedUnit.bytes_of_head?_eq_zero hhead] at hbytes
      exact ⟨u, hread, hbytes⟩
    · rw [if_pos hzero] at hnext
      cases hnext

/-- A result of a step is read from the longer form of its unit and nothing else. -/
theorem exact_stepResult :
    stepResult.Exact fun r => (Output.subscriptionContent r).enclose extendedUnit := by
  intro bytes r rest h
  obtain ⟨u, hread, hbytes⟩ := exists_of_stepResult h
  refine ⟨extendedUnit u.content, hbytes, ?_⟩
  dsimp only
  rw [finishes_subscriptionContent.of_run hread]
  rfl

/-- A result of a step has the opcode of a reply, and its lists and content fit. -/
theorem gives_stepResult : stepResult.Gives SubscriptionResult.Legible := by
  intro bytes r rest h
  obtain ⟨u, hread, -⟩ := exists_of_stepResult h
  exact .of_decode hread

/-- The results of a step are read from what is written of them and nothing else. -/
theorem exact_stepResults : stepResults.Exact fun results => Output.responseBody (.simStep results) :=
  exact_counted (exact_many exact_stepResult) (gives_many stepResult)

/-- The results of a step have opcodes of replies, and their lists, contents and number fit. -/
theorem gives_stepResults :
    stepResults.Gives fun results => (∀ r ∈ results, r.Legible) ∧ results.length < 2 ^ 31 := by
  refine gives_bind fun count => ?_
  by_cases hcount : count < 0
  · rw [if_pos hcount]
    exact gives_throw _
  · rw [if_neg hcount]
    intro bytes results rest h
    refine ⟨gives_stepResult.many _ bytes results rest h, ?_⟩
    have hlt := count.toInt_lt
    have hnat : count.toNatClampNeg = count.toInt.toNat := rfl
    rw [gives_many stepResult _ bytes results rest h]
    omega

end Decoder

/-! ## Bodies -/

/-- The bytes of a body as it stands in a payload. They are those that are written of it, or a unit with the
content that is written of it, in whatever form its length has. -/
inductive Body.Occupies (body : Body) : Bytes → Prop
  | exactly {taken : Bytes} (h : Output.responseBody body = .of taken) : body.Occupies taken
  | ofUnit (u : PlacedUnit) (h : Output.responseBody body = .of (unit u.content)) :
    body.Occupies u.bytes

/-- A body is written in no more bytes than it occupied. -/
theorem Body.Occupies.length_le {body : Body} {taken : Bytes} (h : body.Occupies taken) :
    (Output.responseBody body).bytes.length ≤ taken.length := by
  cases h with
  | exactly h => rw [h]; exact Nat.le_refl _
  | ofUnit u h => rw [h]; exact u.length_unit_content_le

/-- A body in a unit occupies that unit. -/
theorem Body.Occupies.of_carried {body : Body} {content : Output} {u : PlacedUnit}
    (hbody : Output.responseBody body = content.enclose unit) (h : content = .of u.content) :
    body.Occupies u.bytes :=
  .ofUnit u (by rw [hbody, h]; rfl)

namespace Decoder

/-- To look ahead is to take nothing. -/
theorem eq_of_peekOpcode {bytes rest : Bytes} {next : Option Opcode}
    (h : peekOpcode bytes = .ok next rest) : rest = bytes := by
  unfold peekOpcode at h
  split at h
  · cases h
    rfl
  · split at h
    · cases h
    · cases h
      rfl
    · split at h
      · cases h
        rfl
      · cases h

/-- After a success that need not have a body nothing is taken, or a get's value, or a subscription's
result. -/
theorem optionalBody_cases {o : Opcode} {bytes rest : Bytes} {body : Body}
    (h : optionalBody o bytes = .ok body rest) :
    (body = .none ∧ rest = bytes) ∨
      (o.category = .get ∧
        ∃ report, body = .value report ∧ unitOf ValueReport.decode bytes = .ok report rest) ∨
      (o.category = .subscribe ∧
        ∃ result, body = .subscription result ∧
          unitOf SubscriptionResult.decode bytes = .ok result rest) := by
  obtain ⟨next, between, hpeek, hnext⟩ := eq_ok_of_bind_eq_ok h
  obtain rfl := eq_of_peekOpcode hpeek
  by_cases hreply : next.map Opcode.category = some .response
  · rw [if_pos hreply] at hnext
    cases hkind : o.category with
    | get =>
      rw [hkind] at hnext
      obtain ⟨report, between, hreport, hbody⟩ := eq_ok_of_bind_eq_ok hnext
      cases hbody
      exact .inr (.inl ⟨rfl, report, rfl, hreport⟩)
    | subscribe =>
      rw [hkind] at hnext
      obtain ⟨result, between, hresult, hbody⟩ := eq_ok_of_bind_eq_ok hnext
      cases hbody
      exact .inr (.inr ⟨rfl, result, rfl, hresult⟩)
    | _ =>
      rw [hkind] at hnext
      cases hnext
      exact .inl ⟨rfl, rfl⟩
  · rw [if_neg hreply] at hnext
    cases hnext
    exact .inl ⟨rfl, rfl⟩

variable {s : Status} {bytes rest : Bytes} {body : Body}

/-- A body that was read behind a status of success makes the response legible, and took the bytes that it
occupies. Where there is none, none was found ahead. -/
theorem exists_of_responseBody (hok : s.result = .ok)
    (hlen : (Output.statusContent s).bytes.length ≤ unitLimit)
    (h : responseBody s.opcode bytes = .ok body rest) :
    (⟨s, body⟩ : Response).Legible ∧ (∃ taken, bytes = taken ++ rest ∧ body.Occupies taken) ∧
      (body = .none → optionalBody s.opcode rest = .ok .none rest) := by
  -- a content that is carried by a unit fits one
  have hcarried {content : Output} {u : PlacedUnit} (hwrite : content = .of u.content) :
      ∀ c ∈ [Output.statusContent s, content], c.bytes.length ≤ unitLimit := by
    refine List.forall_mem_cons.2 ⟨hlen, List.forall_mem_singleton.2 ?_⟩
    rw [hwrite]
    exact u.length_content_le
  by_cases hv : s.opcode = .getVersion
  · rw [hv] at h
    obtain ⟨info, between, hinfo, hbody⟩ := eq_ok_of_bind_eq_ok h
    cases hbody
    obtain ⟨u, hwrite, hbytes⟩ := finishes_versionContent.exists_of_unitOf hinfo
    exact ⟨⟨⟨hok, hv⟩, trivial, hcarried hwrite, Nat.two_pow_pos 31⟩,
      ⟨u.bytes, hbytes, .of_carried rfl hwrite⟩, nofun⟩
  by_cases hs : s.opcode = .simStep
  · rw [hs] at h
    obtain ⟨results, between, hresults, hbody⟩ := eq_ok_of_bind_eq_ok h
    cases hbody
    obtain ⟨hlegible, hcount⟩ := gives_stepResults bytes results rest hresults
    obtain ⟨taken, hbytes, hwrite⟩ := exact_stepResults.eq_append hresults
    have hcontents : ∀ content ∈ results.map Output.subscriptionContent,
        content.bytes.length ≤ unitLimit := by
      intro content hcontent
      obtain ⟨r, hr, rfl⟩ := List.mem_map.1 hcontent
      exact (hlegible r hr).contentFits
    exact ⟨⟨⟨hok, hs, fun r hr => (hlegible r hr).ofReply⟩, fun r hr => (hlegible r hr).countsFit,
      List.forall_mem_cons.2 ⟨hlen, hcontents⟩, hcount⟩, ⟨taken, hbytes, .exactly hwrite⟩, nofun⟩
  rw [responseBody_of_ne hv hs] at h
  rcases optionalBody_cases h with ⟨rfl, rfl⟩ | ⟨hget, report, rfl, hreport⟩ |
    ⟨hsubscribe, result, rfl, hresult⟩
  · exact ⟨⟨fun _ => ⟨hv, hs⟩, trivial, List.forall_mem_singleton.2 hlen, Nat.two_pow_pos 31⟩,
      ⟨[], rfl, .exactly rfl⟩, fun _ => h⟩
  · obtain ⟨u, hread, hbytes⟩ := exists_of_unitOf hreport
    have hwrite := finishes_valueContent.of_run hread
    have hcounts : report.value.PolygonsFit :=
      Output.error?_valueContent_eq_none.1 (by rw [hwrite]; rfl)
    exact ⟨⟨⟨hok, hget, gives_valueContent.of_run hread⟩, hcounts, hcarried hwrite,
      Nat.two_pow_pos 31⟩, ⟨u.bytes, hbytes, .of_carried rfl hwrite⟩, nofun⟩
  · obtain ⟨u, hread, hbytes⟩ := exists_of_unitOf hresult
    have hwrite := finishes_subscriptionContent.of_run hread
    have hlegible := SubscriptionResult.Legible.of_decode hread
    exact ⟨⟨⟨hok, hsubscribe, hlegible.ofReply⟩, hlegible.countsFit, hcarried hwrite,
      Nat.two_pow_pos 31⟩, ⟨u.bytes, hbytes, .of_carried rfl hwrite⟩, nofun⟩

end Decoder

/-! ## Responses -/

/-- The bytes of a response as it stands in a payload: a unit with its status and the bytes of its body. -/
def Response.Occupies (r : Response) (taken : Bytes) : Prop :=
  ∃ (u : PlacedUnit) (body : Bytes), Output.statusContent r.status = .of u.content ∧
    r.body.Occupies body ∧ taken = u.bytes ++ body

/-- A response is written in no more bytes than it occupied. -/
theorem Response.Occupies.length_le {r : Response} {taken : Bytes} (h : r.Occupies taken) :
    (Output.response r).bytes.length ≤ taken.length := by
  obtain ⟨u, body, hstatus, hbody, rfl⟩ := h
  rw [Output.bytes_response, hstatus, Output.bytes_of, List.length_append, List.length_append]
  exact Nat.add_le_add u.length_unit_content_le hbody.length_le

namespace Decoder

variable {r : Response} {bytes rest : Bytes}

/-- A response that was read is legible and took the bytes that it occupies. Where a success has no body, none
was found ahead. -/
theorem exists_of_response (h : response bytes = .ok r rest) :
    r.Legible ∧ (∃ taken, bytes = taken ++ rest ∧ r.Occupies taken) ∧
      (r.status.result = .ok → r.body = .none →
        optionalBody r.status.opcode rest = .ok .none rest) := by
  obtain ⟨s, between, hstatus, hnext⟩ := eq_ok_of_bind_eq_ok h
  obtain ⟨u, hwrite, rfl⟩ := finishes_statusContent.exists_of_unitOf hstatus
  have hlen : (Output.statusContent s).bytes.length ≤ unitLimit := by
    rw [hwrite]
    exact u.length_content_le
  by_cases hok : s.result = .ok
  · rw [if_pos hok] at hnext
    obtain ⟨body, between', hbody, hr⟩ := eq_ok_of_bind_eq_ok hnext
    cases hr
    obtain ⟨hlegible, ⟨taken, rfl, htaken⟩, hnone⟩ := exists_of_responseBody hok hlen hbody
    refine ⟨hlegible, ⟨u.bytes ++ taken, (List.append_assoc ..).symm, u, taken, hwrite, htaken, rfl⟩,
      fun _ => hnone⟩
  · rw [if_neg hok] at hnext
    cases hnext
    refine ⟨⟨fun hok' => absurd hok' hok, trivial, List.forall_mem_singleton.2 hlen,
      Nat.two_pow_pos 31⟩, ⟨u.bytes, rfl, u, [], hwrite, .exactly rfl, (List.append_nil _).symm⟩,
      fun hok' => absurd hok' hok⟩

/-- Every response takes a byte. -/
theorem shrinks_response : response.Shrinks := by
  intro bytes r rest h
  obtain ⟨-, ⟨taken, rfl, u, body, -, -, rfl⟩, -⟩ := exists_of_response h
  rw [List.append_assoc]
  have hlt := u.length_lt_append (body ++ rest)
  rw [List.length_append] at hlt
  omega

/-! ## What a look ahead finds -/

/-- A look ahead finds the same in front of both. -/
def AheadAlike (a b : Bytes) : Prop :=
  ∃ next, peekOpcode a = .ok next a ∧ peekOpcode b = .ok next b

/-- Where no body is found ahead, none is found where a look ahead finds the same. -/
theorem AheadAlike.optionalBody_none {a b : Bytes} (h : AheadAlike a b) {o : Opcode}
    (hnone : optionalBody o a = .ok .none a) : optionalBody o b = .ok .none b := by
  obtain ⟨next, ha, hb⟩ := h
  rw [optionalBody, bind_of_ok ha] at hnone
  rw [optionalBody, bind_of_ok hb]
  by_cases hreply : next.map Opcode.category = some .response
  · rw [if_pos hreply] at hnone ⊢
    -- where a reply's unit is ahead, a get or a subscription would have a body
    cases hkind : o.category with
    | get =>
      rw [hkind] at hnone
      obtain ⟨report, between, -, hbody⟩ := eq_ok_of_bind_eq_ok hnone
      cases hbody
    | subscribe =>
      rw [hkind] at hnone
      obtain ⟨result, between, -, hbody⟩ := eq_ok_of_bind_eq_ok hnone
      cases hbody
    | _ => rfl
  · rw [if_neg hreply]
    rfl

/-- A unit's opcode is found whatever the form of its length. -/
theorem peekOpcode_bytes {u : PlacedUnit} {o : Opcode} (ho : u.content.head? = some o.code)
    (rest : Bytes) : peekOpcode (u.bytes ++ rest) = .ok (some o) (u.bytes ++ rest) :=
  peekOpcode_of_takes u.bytes_ne_nil u.takes_bytes ho rest

end Decoder

/-- In front of a response its opcode is found, however it stands there. -/
theorem Response.Occupies.aheadAlike {r : Response} {taken : Bytes} (h : r.Occupies taken)
    (rest rest' : Bytes) :
    Decoder.AheadAlike (taken ++ rest) ((Output.response r).bytes ++ rest') := by
  obtain ⟨u, body, hstatus, -, rfl⟩ := h
  have ho : u.content.head? = some r.status.opcode.code := by
    have hbytes := congrArg Output.bytes hstatus
    rw [Output.bytes_of] at hbytes
    rw [← hbytes]
    rfl
  refine ⟨some r.status.opcode, ?_, ?_⟩
  · rw [List.append_assoc]
    exact Decoder.peekOpcode_bytes ho _
  · rw [Output.bytes_response, hstatus, Output.bytes_of, List.append_assoc, ← u.bytes_shortest]
    exact Decoder.peekOpcode_bytes (by rw [u.content_shortest]; exact ho) _

/-! ## Payloads -/

namespace Decoder

/-- What is written of responses that were read is read as the same responses, and a look ahead finds the same
in front of it. -/
theorem Items.written {bytes : Bytes} {rs : List Response} (h : Items response bytes rs) :
    Items response (rs.flatMap fun r => (Output.response r).bytes) rs ∧
      AheadAlike bytes (rs.flatMap fun r => (Output.response r).bytes) := by
  induction h with
  | nil => exact ⟨.nil, none, rfl, rfl⟩
  | cons hread _ ih =>
    obtain ⟨hlegible, ⟨taken, rfl, htaken⟩, hnone⟩ := exists_of_response hread
    obtain ⟨hitems, hahead⟩ := ih
    rw [List.flatMap_cons]
    refine ⟨.cons (response_of_legible hlegible fun hok hbody => ?_) hitems, htaken.aheadAlike _ _⟩
    exact hahead.optionalBody_none (hnone hok hbody)

end Decoder

/-- Responses are written in no more bytes than they occupied. -/
theorem Response.length_flatMap_le_of_occupies {pieces : List Bytes} {rs : List Response}
    (h : List.Forall₂ (fun taken r => Response.Occupies r taken) pieces rs) :
    (rs.flatMap fun r => (Output.response r).bytes).length ≤ pieces.flatten.length := by
  induction h with
  | nil => exact Nat.le_refl _
  | cons hr _ ih =>
    rw [List.flatMap_cons, List.flatten_cons, List.length_append, List.length_append]
    exact Nat.add_le_add hr.length_le ih

/-- A payload that is parsed consists of one piece for each response, in which the response stands with all
its parts. The responses can be encoded, in no more bytes than they came in, and are parsed from these
again. -/
theorem Response.exists_pieces_of_parse {payload : Bytes} {rs : List Response}
    (h : Response.parse payload = .ok rs) :
    ∃ pieces : List Bytes, payload = pieces.flatten ∧
      List.Forall₂ (fun taken r => Response.Occupies r taken) pieces rs ∧
      ∃ again, Response.encodeAll rs = .ok again ∧ again.length ≤ payload.length ∧
        Response.parse again = .ok rs := by
  have hitems := (Decoder.run_all_eq_ok_iff Decoder.shrinks_response).1 h
  have hlegible : ∀ r ∈ rs, r.Legible :=
    hitems.forall_mem fun _ _ _ hread => (Decoder.exists_of_response hread).1
  have hpiece : ∀ bytes r rest, Decoder.response bytes = .ok r rest →
      ∃ taken, r.Occupies taken ∧ bytes = id taken ++ rest := by
    intro bytes r rest hread
    obtain ⟨-, ⟨taken, hbytes, htaken⟩, -⟩ := Decoder.exists_of_response hread
    exact ⟨taken, htaken, hbytes⟩
  obtain ⟨pieces, hpieces, rfl⟩ := hitems.exists_pieces hpiece
  rw [List.flatMap_id]
  exact ⟨pieces, rfl, hpieces, _,
    Response.encodeAll_of_countsFit fun r hr => (hlegible r hr).countsFit,
    Response.length_flatMap_le_of_occupies hpieces,
    (Decoder.run_all_eq_ok_iff Decoder.shrinks_response).2 hitems.written.1⟩

/-- The first status has a reply's opcode, and its unit is longer than it need be; so is that of the value
behind the second. -/
theorem Response.exists_pieces_of_parse_long :
    let payload : Bytes := [0, 0, 0, 0, 11, 0xBE, 0, 0, 0, 0, 0,
      7, 0xAE, 0, 0, 0, 0, 0, 0, 0, 0, 0, 17, 0xBE, 0x01, 0, 0, 0, 1, 0x31, 0x09, 0, 0, 0, 2,
      7, 0x02, 0, 0, 0, 0, 0, 0, 0, 0, 1, 0, 0, 0, 0, 12, 0xEE, 0, 0, 0, 1, 0x31, 0]
    let rs : List Response := [.ok .getPersonResponse,
      .withBody .getPerson (.value ⟨.getPersonResponse, 0x01, "1", .integer 2⟩),
      .simStep [⟨.subscribePersonResponse, "1", []⟩]]
    Response.parse payload = .ok rs ∧
      ∃ pieces : List Bytes, payload = pieces.flatten ∧
        List.Forall₂ (fun taken r => Response.Occupies r taken) pieces rs ∧
        ∃ again, Response.encodeAll rs = .ok again ∧ again.length ≤ payload.length ∧
          Response.parse again = .ok rs := by
  intro payload rs
  have hparse : Response.parse payload = .ok rs := rfl
  exact ⟨hparse, Response.exists_pieces_of_parse hparse⟩

end PedestrianControl
