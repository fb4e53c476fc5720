import PedestrianControl.Proofs.Wire.Command

/-!
# Responses are read back

A reply does not announce its bodies: whether one follows a status is read off the status and off the
opcode of the next unit. `Body.Follows` says which bodies a status can have, and every list of sendable
responses is encoded and parsed as the same list (`Response.parse_encodeAll_responses`).

The reader of a body looks one unit ahead. What it must not see there is a reply's opcode that belongs to
no body; `Decoder.Quiet` says so, and it holds at the end of a payload and in front of every status.
-/

namespace PedestrianControl

/-! ## Sendable responses -/

/-- The values of a subscription are counted in one byte, as are the points of polygons in them. -/
def SubscriptionResult.CountsFit (r : SubscriptionResult) : Prop :=
  r.values.length ≤ 255 ∧ ∀ v ∈ r.values, v.value.PolygonsFit

instance (r : SubscriptionResult) : Decidable r.CountsFit :=
  inferInstanceAs (Decidable (_ ∧ _))

/-- Of the control opcodes two announce a body. No other category does. -/
theorem Opcode.ne_of_category {o : Opcode} (h : o.category ≠ .control) :
    o ≠ .getVersion ∧ o ≠ .simStep := by
  constructor <;> intro he <;> rw [he] at h <;> exact h rfl

namespace Body

/-- Lists that are counted in one byte have at most 255 elements. -/
def CountsFit : Body → Prop
  | value report => report.value.PolygonsFit
  | subscription result => result.CountsFit
  | simStep results => ∀ r ∈ results, r.CountsFit
  | _ => True

instance (body : Body) : Decidable body.CountsFit :=
  match body with
  | value report => inferInstanceAs (Decidable report.value.PolygonsFit)
  | subscription result => inferInstanceAs (Decidable result.CountsFit)
  | simStep results => inferInstanceAs (Decidable (∀ r ∈ results, r.CountsFit))
  | none | version _ => inferInstanceAs (Decidable True)

/-- The contents of a body's units in order. -/
def contents : Body → List Output
  | none => []
  | version info => [Output.versionContent info]
  | value report => [Output.valueContent report]
  | subscription result => [Output.subscriptionContent result]
  | simStep results => results.map Output.subscriptionContent

/-- The bodies that can follow a status. A failure has none. A success has the version or the results of
the step if these were asked for; that of a get or a subscription may have a value or a result, and any
other has no body. Values and results carry the opcode of a reply. -/
def Follows (s : Status) : Body → Prop
  | none => s.result = .ok → s.opcode ≠ .getVersion ∧ s.opcode ≠ .simStep
  | version _ => s.result = .ok ∧ s.opcode = .getVersion
  | value report =>
    s.result = .ok ∧ s.opcode.category = .get ∧ report.opcode.category = .response
  | subscription result =>
    s.result = .ok ∧ s.opcode.category = .subscribe ∧ result.opcode.category = .response
  | simStep results =>
    s.result = .ok ∧ s.opcode = .simStep ∧ ∀ r ∈ results, r.opcode.category = .response

instance (s : Status) (body : Body) : Decidable (body.Follows s) :=
  match body with
  | none => inferInstanceAs (Decidable (_ → _ ∧ _))
  | version _ => inferInstanceAs (Decidable (_ ∧ _))
  | value _ | subscription _ => inferInstanceAs (Decidable (_ ∧ _ ∧ _))
  | simStep results =>
    inferInstanceAs (Decidable (_ ∧ _ ∧ ∀ r ∈ results, r.opcode.category = .response))

end Body

/-- A response that a reader takes for what it is, whatever sendable response follows. -/
structure Response.Sendable (r : Response) : Prop where
  ofCommand : r.status.opcode.category ≠ .response
  bodyFollows : r.body.Follows r.status
  countsFit : r.body.CountsFit
  contentsFit : ∀ content ∈ Output.statusContent r.status :: r.body.contents,
    content.bytes.length ≤ unitLimit
  resultsFit : r.subscriptions.length < 2 ^ 31

instance (r : Response) : Decidable r.Sendable :=
  decidable_of_iff
    (r.status.opcode.category ≠ .response ∧ r.body.Follows r.status ∧ r.body.CountsFit ∧
      (∀ content ∈ Output.statusContent r.status :: r.body.contents,
        content.bytes.length ≤ unitLimit) ∧ r.subscriptions.length < 2 ^ 31)
    ⟨fun ⟨ho, hbody, hcounts, hcontents, hresults⟩ => ⟨ho, hbody, hcounts, hcontents, hresults⟩,
      fun ⟨ho, hbody, hcounts, hcontents, hresults⟩ => ⟨ho, hbody, hcounts, hcontents, hresults⟩⟩

/-- A response whose body can follow its status, and whose lists and contents fit their counts and units. -/
structure Response.Legible (r : Response) : Prop where
  bodyFollows : r.body.Follows r.status
  countsFit : r.body.CountsFit
  contentsFit : ∀ content ∈ Output.statusContent r.status :: r.body.contents,
    content.bytes.length ≤ unitLimit
  resultsFit : r.subscriptions.length < 2 ^ 31

/-- A response that can be sent can be read. -/
theorem Response.Sendable.legible {r : Response} (h : r.Sendable) : r.Legible :=
  ⟨h.bodyFollows, h.countsFit, h.contentsFit, h.resultsFit⟩

/-- Only success has a body. -/
theorem Body.eq_none_of_failed {s : Status} {body : Body} (h : body.Follows s)
    (hfail : s.result ≠ .ok) : body = .none := by
  cases body with
  | none => rfl
  | version _ | value _ | subscription _ | simStep _ => exact absurd h.1 hfail

namespace Output

/-- Writing a subscribed value fails only on a polygon too long for its count. -/
theorem error?_subscribedValue_eq_none {v : SubscribedValue} :
    (subscribedValue v).error? = none ↔ v.value.PolygonsFit := by
  have hfields : (byte v.var ++ byte v.status.code).error? = none := rfl
  rw [subscribedValue, error?_append_eq_none, and_iff_right hfields, error?_typed_eq_none]

/-- Writing the result of a subscription fails only on a list too long for its count. -/
theorem error?_subscriptionContent_eq_none {r : SubscriptionResult} :
    (subscriptionContent r).error? = none ↔ r.CountsFit := by
  rw [subscriptionContent, SubscriptionResult.CountsFit]
  by_cases h : r.values.length ≤ 255
  · have hfields : (byte r.opcode.code ++ string r.element
        ++ byte r.values.length.toUInt8).error? = none := rfl
    rw [if_pos h, and_iff_right h, error?_append_eq_none, and_iff_right hfields,
      error?_each_eq_none]
    exact forall₂_congr fun v _ => error?_subscribedValue_eq_none
  · rw [if_neg h]
    exact iff_of_false (Option.some_ne_none _) fun hfit => h hfit.1

/-- Writing a value fails only on a polygon too long for its count. -/
theorem error?_valueContent_eq_none {report : ValueReport} :
    (valueContent report).error? = none ↔ report.value.PolygonsFit := by
  have hfields : (byte report.opcode.code ++ byte report.var
      ++ string report.element).error? = none := rfl
  rw [valueContent, error?_append_eq_none, and_iff_right hfields, error?_typed_eq_none]

/-- Writing a body fails only on a list too long for its count of one byte. -/
theorem error?_responseBody_eq_none {body : Body} :
    (responseBody body).error? = none ↔ body.CountsFit := by
  cases body with
  | none => exact iff_of_true rfl trivial
  | version info => exact iff_of_true rfl trivial
  | value report => rw [responseBody, error?_enclose, error?_valueContent_eq_none, Body.CountsFit]
  | subscription result =>
    rw [responseBody, error?_enclose, error?_subscriptionContent_eq_none, Body.CountsFit]
  | simStep results =>
    rw [responseBody, error?_list_eq_none, Body.CountsFit]
    exact forall₂_congr fun r _ => by
      rw [error?_enclose, error?_subscriptionContent_eq_none]

/-- Writing a response fails only on a list in its body that is too long for its count. -/
theorem error?_response_eq_none {r : Response} :
    (response r).error? = none ↔ r.body.CountsFit := by
  have hstatus : ((statusContent r.status).enclose unit).error? = none := rfl
  rw [response, error?_append_eq_none, and_iff_right hstatus, error?_responseBody_eq_none]

/-- The bytes of a response are its status unit and those of its body. -/
theorem bytes_response (r : Response) :
    (response r).bytes = unit (statusContent r.status).bytes ++ (responseBody r.body).bytes := by
  rw [response, bytes_append rfl]
  rfl

end Output

namespace Decoder

/-! ## The contents of units -/

/-- A result code is read back from its byte. -/
theorem reads_resultCode (r : ResultCode) : resultCode.Reads (.byte r.code) r :=
  reads_coded (by rw [ResultCode.ofCode?_code])

/-- The opcode of a reply is read back from its code. -/
theorem reads_responseOpcode {o : Opcode} (h : o.category = .response) :
    responseOpcode.Reads (.byte o.code) o := by
  intro herr hlen rest
  rw [responseOpcode, bind_of_ok (reads_opcode o herr hlen rest), if_pos h]
  rfl

/-- The content of a status is read back to its end. -/
theorem ends_statusContent (s : Status) : statusContent.Ends (.statusContent s) s := by
  rw [Output.statusContent, Output.append_assoc]
  exact (reads_opcode s.opcode).bind_ends ((reads_resultCode s.result).bind_ends
    (reads_string s.description).bind_finished)

/-- The content of a version is read back to its end. -/
theorem ends_versionContent (info : VersionInfo) :
    versionContent.Ends (.versionContent info) info := by
  rw [Output.versionContent, Output.append_assoc]
  exact (reads_opcode .getVersion).bind_ends ((reads_int32 info.api).bind_ends
    (reads_string info.identifier).bind_finished)

/-- The content of a value is read back to its end. -/
theorem ends_valueContent {report : ValueReport} (h : report.opcode.category = .response) :
    valueContent.Ends (.valueContent report) report := by
  simp only [Output.valueContent, Output.append_assoc]
  exact (reads_responseOpcode h).bind_ends ((reads_byte report.var).bind_ends
    ((reads_string report.element).bind_ends (reads_typed report.value).bind_finished))

/-- A subscribed value is read back. -/
theorem reads_subscribedValue (v : SubscribedValue) :
    subscribedValue.Reads (.subscribedValue v) v := by
  rw [Output.subscribedValue, Output.append_assoc]
  exact (reads_byte v.var).bind ((reads_resultCode v.status).bind (reads_typed v.value).bind_pure)

/-- The content of the result of a subscription is read back to its end. -/
theorem ends_subscriptionContent {r : SubscriptionResult} (h : r.opcode.category = .response) :
    subscriptionContent.Ends (.subscriptionContent r) r := by
  intro herr
  have hvalues : r.values.length ≤ 255 := (Output.error?_subscriptionContent_eq_none.1 herr).1
  have hlist : (many r.values.length subscribedValue).Reads
      (.each .subscribedValue r.values) r.values := reads_many fun v _ => reads_subscribedValue v
  rw [Output.subscriptionContent, if_pos hvalues] at herr ⊢
  simp only [Output.append_assoc] at herr ⊢
  refine (reads_responseOpcode h).bind_ends ((reads_string r.element).bind_ends ?_) herr
  exact Reads.bind_byte_ends hvalues (f := fun count => many count subscribedValue >>= fun values =>
    finished (fun bytes => .trailingAfterPart bytes .subscription) >>= fun _ =>
      pure (⟨r.opcode, r.element, values⟩ : SubscriptionResult)) hlist.bind_finished

/-! ## Looking ahead -/

/-- No unit of a reply's body stands in front of these bytes. -/
def Quiet (bytes : Bytes) : Prop :=
  ∃ next, peekOpcode bytes = .ok next bytes ∧ next.map Opcode.category ≠ some .response

/-- At the end of a payload no unit stands in front. -/
theorem quiet_nil : Quiet [] := ⟨none, rfl, nofun⟩

/-- The opcode in front of a unit's content is what a look ahead finds. -/
theorem peekOpcode_of_takes {o : Opcode} {bytes content : Bytes} (hne : bytes ≠ [])
    (hunit : unit.Takes bytes content) (ho : content.head? = some o.code) (rest : Bytes) :
    peekOpcode (bytes ++ rest) = .ok (some o) (bytes ++ rest) := by
  obtain ⟨tail, rfl⟩ := List.head?_eq_some_iff.1 ho
  have hread := hunit rest
  cases hbytes : bytes ++ rest with
  | nil => exact absurd hbytes (List.append_ne_nil_of_left_ne_nil hne _)
  | cons b others =>
    rw [hbytes] at hread
    simp only [peekOpcode, hread, Opcode.ofCode?_code]

/-- Looking ahead to a unit finds the opcode that its content begins with. -/
theorem peekOpcode_unit {o : Opcode} {content : Bytes} (ho : content.head? = some o.code)
    (hlen : content.length ≤ unitLimit) (rest : Bytes) :
    peekOpcode (PedestrianControl.unit content ++ rest)
      = .ok (some o) (PedestrianControl.unit content ++ rest) :=
  peekOpcode_of_takes (unit_ne_nil content) (takes_unit hlen) ho rest

/-- In front of a status there is no body's unit, as its opcode is that of a command. -/
theorem quiet_status {s : Status} (hs : s.opcode.category ≠ .response)
    (hfits : (Output.statusContent s).bytes.length ≤ unitLimit) (rest : Bytes) :
    Quiet (PedestrianControl.unit (Output.statusContent s).bytes ++ rest) := by
  refine ⟨some s.opcode, peekOpcode_unit rfl hfits rest, ?_⟩
  intro h
  exact hs (Option.some.inj h)

/-- Where a reply's unit stands in front, a get takes it for its value. -/
theorem optionalBody_of_get {o r : Opcode} {bytes : Bytes} (ho : o.category = .get)
    (hpeek : peekOpcode bytes = .ok (some r) bytes) (hr : r.category = .response) :
    optionalBody o bytes
      = (unitOf ValueReport.decode >>= fun report => pure (Body.value report)) bytes := by
  have hnext : (some r).map Opcode.category = some .response := congrArg some hr
  rw [optionalBody, bind_of_ok hpeek, if_pos hnext, ho]

/-- Where a reply's unit stands in front, a subscription takes it for its result. -/
theorem optionalBody_of_subscribe {o r : Opcode} {bytes : Bytes} (ho : o.category = .subscribe)
    (hpeek : peekOpcode bytes = .ok (some r) bytes) (hr : r.category = .response) :
    optionalBody o bytes
      = (unitOf SubscriptionResult.decode >>= fun result => pure (Body.subscription result))
          bytes := by
  have hnext : (some r).map Opcode.category = some .response := congrArg some hr
  rw [optionalBody, bind_of_ok hpeek, if_pos hnext, ho]

/-- Where no body's unit stands in front, there is no body. -/
theorem optionalBody_of_quiet {o : Opcode} {bytes : Bytes} (h : Quiet bytes) :
    optionalBody o bytes = .ok .none bytes := by
  obtain ⟨next, hpeek, hnext⟩ := h
  rw [optionalBody, bind_of_ok hpeek, if_neg hnext]
  rfl

/-- All opcodes but those of versions and steps have a body that may be missing. -/
theorem responseBody_of_ne {o : Opcode} (hv : o ≠ .getVersion) (hs : o ≠ .simStep) :
    responseBody o = optionalBody o := by
  cases o <;> first | rfl | contradiction

/-! ## Bodies and responses -/

/-- One result of a step, in a unit of the longer form. -/
theorem takes_stepResult {r : SubscriptionResult} (hr : r.opcode.category = .response)
    (hfit : r.CountsFit) (hlen : (Output.subscriptionContent r).bytes.length ≤ unitLimit) :
    stepResult.Takes (extendedUnit (Output.subscriptionContent r).bytes) r := by
  have hread : SubscriptionResult.decode (Output.subscriptionContent r).bytes = .ok r :=
    (ends_subscriptionContent hr).run (Output.error?_subscriptionContent_eq_none.2 hfit) hlen
  intro rest
  have hmarker : peek (extendedUnit (Output.subscriptionContent r).bytes ++ rest)
      = .ok 0 (extendedUnit (Output.subscriptionContent r).bytes ++ rest) := rfl
  rw [stepResult, bind_of_ok hmarker]
  exact takes_unitOf (takes_extendedUnit hlen) hread rest

/-- The results of a step are counted by a signed number and follow one another. -/
theorem takes_stepResults {results : List SubscriptionResult}
    (hr : ∀ r ∈ results, r.opcode.category = .response) (hfit : ∀ r ∈ results, r.CountsFit)
    (hlen : ∀ r ∈ results, (Output.subscriptionContent r).bytes.length ≤ unitLimit)
    (hcount : results.length < 2 ^ 31) :
    stepResults.Takes (Output.responseBody (.simStep results)).bytes results := by
  have hitems : ∀ r ∈ results,
      ((Output.subscriptionContent r).enclose extendedUnit).error? = none := fun r hmem => by
    rw [Output.error?_enclose]
    exact Output.error?_subscriptionContent_eq_none.2 (hfit r hmem)
  intro rest
  rw [Output.responseBody, Output.list, Output.bytes_append rfl, Output.bytes_each hitems,
    List.append_assoc, stepResults, counted_count hcount]
  refine takes_many (fun r hmem => ?_) rest
  rw [Output.bytes_enclose (Output.error?_subscriptionContent_eq_none.2 (hfit r hmem))]
  exact takes_stepResult (hr r hmem) (hfit r hmem) (hlen r hmem)

/-- A get's value follows its status and is recognised by its opcode. -/
theorem optionalBody_value {o : Opcode} {report : ValueReport} (ho : o.category = .get)
    (hr : report.opcode.category = .response) (hfit : report.value.PolygonsFit)
    (hlen : (Output.valueContent report).bytes.length ≤ unitLimit) :
    (optionalBody o).Takes (Output.responseBody (.value report)).bytes (.value report) := by
  intro rest
  have herr := Output.error?_valueContent_eq_none.2 hfit
  have hread : ValueReport.decode (Output.valueContent report).bytes = .ok report :=
    (ends_valueContent hr).run herr hlen
  rw [Output.responseBody, Output.bytes_enclose herr,
    optionalBody_of_get ho (peekOpcode_unit rfl hlen rest) hr,
    bind_of_ok (takes_unitOf (takes_unit hlen) hread rest)]
  rfl

/-- The result of a new subscription follows its status and is recognised by its opcode. -/
theorem optionalBody_subscription {o : Opcode} {result : SubscriptionResult}
    (ho : o.category = .subscribe) (hr : result.opcode.category = .response)
    (hfit : result.CountsFit)
    (hlen : (Output.subscriptionContent result).bytes.length ≤ unitLimit) :
    (optionalBody o).Takes (Output.responseBody (.subscription result)).bytes
      (.subscription result) := by
  intro rest
  have herr := Output.error?_subscriptionContent_eq_none.2 hfit
  have hread : SubscriptionResult.decode (Output.subscriptionContent result).bytes
      = .ok result :=
    (ends_subscriptionContent hr).run herr hlen
  have hhead : (Output.subscriptionContent result).bytes.head? = some result.opcode.code := by
    rw [Output.subscriptionContent, if_pos hfit.1]
    rfl
  rw [Output.responseBody, Output.bytes_enclose herr,
    optionalBody_of_subscribe ho (peekOpcode_unit hhead hlen rest) hr,
    bind_of_ok (takes_unitOf (takes_unit hlen) hread rest)]
  rfl

/-- After a success a body is read back, whatever follows it. -/
theorem takes_responseBody {r : Response} (h : r.Legible) (hok : r.status.result = .ok)
    (hne : r.body ≠ .none) :
    (responseBody r.status.opcode).Takes (Output.responseBody r.body).bytes r.body := by
  obtain ⟨status, body⟩ := r
  obtain ⟨hfollows, hfit, hcontents, hresults⟩ := h
  have hbody := (List.forall_mem_cons.1 hcontents).2
  intro rest
  -- the body that follows the status fixes its opcode, or the opcode's category
  cases body with
  | none => exact absurd rfl hne
  | version info =>
    obtain ⟨-, ho⟩ := hfollows
    have hlen := hbody _ (List.mem_singleton.2 rfl)
    have hread : VersionInfo.decode (Output.versionContent info).bytes = .ok info :=
      (ends_versionContent info).run rfl hlen
    rw [ho]
    show (unitOf VersionInfo.decode >>= fun info => pure (Body.version info)) _ = _
    rw [Output.responseBody, Output.bytes_enclose rfl,
      bind_of_ok (takes_unitOf (takes_unit hlen) hread rest)]
    rfl
  | value report =>
    obtain ⟨-, ho, hr⟩ := hfollows
    obtain ⟨hv, hs⟩ := Opcode.ne_of_category (ho.trans_ne Category.noConfusion)
    rw [responseBody_of_ne hv hs]
    exact optionalBody_value ho hr hfit (hbody _ (List.mem_singleton.2 rfl)) rest
  | subscription result =>
    obtain ⟨-, ho, hr⟩ := hfollows
    obtain ⟨hv, hs⟩ := Opcode.ne_of_category (ho.trans_ne Category.noConfusion)
    rw [responseBody_of_ne hv hs]
    exact optionalBody_subscription ho hr hfit (hbody _ (List.mem_singleton.2 rfl)) rest
  | simStep results =>
    obtain ⟨-, ho, hr⟩ := hfollows
    have hlen : ∀ r ∈ results, (Output.subscriptionContent r).bytes.length ≤ unitLimit :=
      fun r hmem => hbody _ (List.mem_map.2 ⟨r, hmem, rfl⟩)
    rw [ho]
    show (stepResults >>= fun results => pure (Body.simStep results)) _ = _
    rw [bind_of_ok (takes_stepResults hr hfit hlen hresults rest)]
    rfl

/-- A legible response is read back if, where it has no body, none is found ahead. -/
theorem response_of_legible {r : Response} (h : r.Legible) {rest : Bytes}
    (hnone : r.status.result = .ok → r.body = .none →
      optionalBody r.status.opcode rest = .ok .none rest) :
    response ((Output.response r).bytes ++ rest) = .ok r rest := by
  have hlen := (List.forall_mem_cons.1 h.contentsFit).1
  have hread : Status.decode (Output.statusContent r.status).bytes = .ok r.status :=
    (ends_statusContent r.status).run rfl hlen
  rw [Output.bytes_response, List.append_assoc, response,
    bind_of_ok (takes_unitOf (takes_unit hlen) hread _)]
  -- a failure is not asked for a body, and has none
  by_cases hok : r.status.result = .ok
  · have hbody : responseBody r.status.opcode ((Output.responseBody r.body).bytes ++ rest)
        = .ok r.body rest := by
      by_cases hne : r.body = .none
      · obtain ⟨hv, hs⟩ := (hne ▸ h.bodyFollows : Body.none.Follows r.status) hok
        rw [hne, responseBody_of_ne hv hs]
        exact hnone hok hne
      · exact takes_responseBody h hok hne rest
    rw [if_pos hok, bind_of_ok hbody]
    rfl
  · have hnothing := Body.eq_none_of_failed h.bodyFollows hok
    rw [if_neg hok, hnothing]
    show EStateM.Result.ok (⟨r.status, .none⟩ : Response) rest = _
    rw [← hnothing]

/-- A sendable response is read back where no body stands ahead, and in front of it none does either. -/
theorem response_of_sendable {r : Response} (h : r.Sendable) {rest : Bytes} (hquiet : Quiet rest) :
    response ((Output.response r).bytes ++ rest) = .ok r rest ∧
      Quiet ((Output.response r).bytes ++ rest) := by
  refine ⟨response_of_legible h.legible fun _ _ => optionalBody_of_quiet hquiet, ?_⟩
  rw [Output.bytes_response, List.append_assoc]
  exact quiet_status h.ofCommand (List.forall_mem_cons.1 h.contentsFit).1 _

/-- Sendable responses are read back from the units that they are written as. -/
theorem all_response_flatMap {rs : List Response} (h : ∀ r ∈ rs, r.Sendable) :
    all response (rs.flatMap fun r => (Output.response r).bytes) = .ok rs [] := by
  refine all_flatMap Quiet quiet_nil (fun r hr rest => response_of_sendable (h r hr)) fun r _ => ?_
  rw [Output.bytes_response]
  exact List.append_ne_nil_of_left_ne_nil (unit_ne_nil _) _

end Decoder

/-- The payload of responses whose lists fit their counts is one response after the other. -/
theorem Response.encodeAll_of_countsFit {rs : List Response} (h : ∀ r ∈ rs, r.body.CountsFit) :
    Response.encodeAll rs = .ok (rs.flatMap fun r => (Output.response r).bytes) := by
  have herr : ∀ r ∈ rs, (Output.response r).error? = none :=
    fun r hr => Output.error?_response_eq_none.2 (h r hr)
  exact Output.result_eq_ok_iff.2 ⟨Output.error?_each_eq_none.2 herr, Output.bytes_each herr⟩

/-- A response that can be written is a payload of its own. -/
theorem Response.encodeAll_singleton {response : Response} (h : response.body.CountsFit) :
    Response.encodeAll [response] = .ok (Output.response response).bytes := by
  rw [Response.encodeAll_of_countsFit (List.forall_mem_singleton.2 h), List.flatMap_singleton]

/-- A body that is not too long for counts has contents that fit their units. -/
theorem Output.length_contents_le {body : Body} (herr : (responseBody body).error? = none)
    (hlen : (responseBody body).bytes.length < 2 ^ 31) :
    ∀ content ∈ body.contents, content.bytes.length ≤ unitLimit := by
  cases body with
  | none => exact List.forall_mem_nil _
  | version info =>
    rw [responseBody, bytes_enclose rfl] at hlen
    exact List.forall_mem_singleton.2 (length_unit_lt_iff.1 hlen)
  | value report =>
    rw [responseBody, error?_enclose] at herr
    rw [responseBody, bytes_enclose herr] at hlen
    exact List.forall_mem_singleton.2 (length_unit_lt_iff.1 hlen)
  | subscription result =>
    rw [responseBody, error?_enclose] at herr
    rw [responseBody, bytes_enclose herr] at hlen
    exact List.forall_mem_singleton.2 (length_unit_lt_iff.1 hlen)
  | simStep results =>
    intro content hcontent
    obtain ⟨result, hresult, rfl⟩ := List.mem_map.1 hcontent
    obtain ⟨hcount, hitems⟩ := error?_append_eq_none.1 herr
    rw [responseBody, list, bytes_append hcount, List.length_append] at hlen
    have hitem := length_bytes_le_of_mem hitems hresult
    have hresulterr := error?_each_eq_none.1 hitems result hresult
    rw [error?_enclose] at hresulterr
    rw [bytes_enclose hresulterr, length_extendedUnit] at hitem
    rw [unitLimit]
    omega

/-- A step has no more results than its body has bytes. -/
theorem Output.length_results_le {results : List SubscriptionResult}
    (herr : (responseBody (.simStep results)).error? = none) :
    results.length ≤ (responseBody (.simStep results)).bytes.length := by
  obtain ⟨hcount, hitems⟩ := error?_append_eq_none.1 herr
  have hle := length_le_length_each hitems fun result hresult => by
    have hresulterr := error?_each_eq_none.1 hitems result hresult
    rw [error?_enclose] at hresulterr
    rw [bytes_enclose hresulterr]
    exact List.cons_ne_nil _ _
  rw [responseBody, list, bytes_append hcount, List.length_append]
  omega

/-- Responses whose payload is not too long for counts are sendable, if their bodies follow their
statuses. -/
theorem Response.sendable_of_encodeAll {rs : List Response}
    (hstatus : ∀ r ∈ rs, r.status.opcode.category ≠ .response)
    (hbody : ∀ r ∈ rs, r.body.Follows r.status) {payload : Bytes}
    (hencode : Response.encodeAll rs = .ok payload) (hlen : payload.length < 2 ^ 31) :
    ∀ r ∈ rs, r.Sendable := by
  obtain ⟨herr, rfl⟩ := Output.result_eq_ok_iff.1 hencode
  intro r hr
  have hcounts := Output.error?_response_eq_none.1 (Output.error?_each_eq_none.1 herr r hr)
  have hresponse := Nat.lt_of_le_of_lt (Output.length_bytes_le_of_mem herr hr) hlen
  have hbodyerr := Output.error?_responseBody_eq_none.2 hcounts
  rw [Output.bytes_response, List.length_append] at hresponse
  refine ⟨hstatus r hr, hbody r hr, hcounts, List.forall_mem_cons.2 ⟨?_, ?_⟩, ?_⟩
  · exact length_unit_lt_iff.1 (by omega)
  · exact Output.length_contents_le hbodyerr (by omega)
  · rw [Response.subscriptions]
    split
    · rename_i results hresults
      rw [hresults] at hbodyerr hresponse
      have hle := Output.length_results_le hbodyerr
      omega
    · decide

/-- Every response takes a byte of the payload. -/
theorem Response.length_le_of_encodeAll {rs : List Response} {payload : Bytes}
    (hencode : Response.encodeAll rs = .ok payload) : rs.length ≤ payload.length := by
  obtain ⟨herr, rfl⟩ := Output.result_eq_ok_iff.1 hencode
  refine Output.length_le_length_each herr fun r _ => ?_
  rw [Output.bytes_response]
  exact List.append_ne_nil_of_left_ne_nil (unit_ne_nil _) _

/-- What responses were encoded as is parsed as these responses. -/
theorem Response.parse_of_encodeAll {rs : List Response}
    (hstatus : ∀ r ∈ rs, r.status.opcode.category ≠ .response)
    (hbody : ∀ r ∈ rs, r.body.Follows r.status) {payload : Bytes}
    (hencode : Response.encodeAll rs = .ok payload) (hlen : payload.length < 2 ^ 31) :
    Response.parse payload = .ok rs := by
  have hsendable := Response.sendable_of_encodeAll hstatus hbody hencode hlen
  rw [Response.encodeAll_of_countsFit fun r hr => (hsendable r hr).countsFit] at hencode
  cases hencode
  rw [Response.parse, Decoder.run, Decoder.all_response_flatMap hsendable]
  rfl

/-- Sendable responses can be encoded, and their payload is parsed as the same responses in the same
order, to its last byte. -/
theorem Response.parse_encodeAll_responses {rs : List Response} (h : ∀ r ∈ rs, r.Sendable) :
    ∃ payload, Response.encodeAll rs = .ok payload ∧ Response.parse payload = .ok rs ∧
      Decoder.all Decoder.response payload = .ok rs [] := by
  have hread := Decoder.all_response_flatMap h
  refine ⟨_, Response.encodeAll_of_countsFit fun r hr => (h r hr).countsFit, ?_, hread⟩
  rw [Response.parse, Decoder.run, hread]
  rfl

/-- Responses with a body of every shape, one of them too long for the shorter form, and others without a body. -/
theorem Response.parse_encodeAll_mixed :
    let reply := [.version "ü", .withBody .getPerson (.value ⟨.getPersonResponse, 0x42, "1",
        .compound [.pos2d 0, .string (String.ofList (List.replicate 300 'x'))]⟩), .ok .getPerson,
      .withBody .subscribePerson (.subscription ⟨.subscribePersonResponse, "1", []⟩),
      .ok .subscribePerson, .simStep [⟨.subscribePersonResponse, "1", [⟨0x42, .error, .ubyte 7⟩]⟩],
      .error .load "no file", .ok .close]
    (∀ r ∈ reply, Response.Sendable r) ∧ ∃ payload, Response.encodeAll reply = .ok payload ∧
      Response.parse payload = .ok reply ∧ Decoder.all Decoder.response payload = .ok reply [] := by
  intro reply
  have h : ∀ r ∈ reply, Response.Sendable r := by decide +kernel
  exact ⟨h, Response.parse_encodeAll_responses h⟩

end PedestrianControl
