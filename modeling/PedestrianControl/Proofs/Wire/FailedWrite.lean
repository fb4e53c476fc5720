import PedestrianControl.Proofs.Wire.Response

/-!
# What a write that fails leaves

A payload is written by one command or response after the other (`Command.encodeAll_eq_write`), and may be written on
after a write that failed. A command is put together apart from the payload, so that a write of it that fails leaves
the payload as it was (`Command.write_eq_error_iff`). Each unit of a response is put together apart, too, but not the
response: its status is written before its body can fail, and the results of a step are written up to the one that
fails. `Body.Unfinished` says what is written of such a body, and with the status in front of it this is all that a
failed write adds (`Response.write_eq_error_iff`). It always adds the status (`failed_write_leaves`).
-/

namespace PedestrianControl

/-! ## Outputs with a fault -/

namespace Output

variable {α : Type} {o : Output} {e : Error} {payload left : Bytes}

/-- A write that fails leaves the bytes put out before the fault behind those that were there. -/
theorem write_eq_error_iff :
    o.write payload = .error e left ↔ o.error? = some e ∧ left = payload ++ o.bytes := by
  rcases o with ⟨bytes, _ | fault⟩ <;> simp [write, eq_comm]

/-- A write fails, whatever it is behind, exactly if there is a fault. -/
theorem exists_write_error_iff : (∃ e left, o.write payload = .error e left) ↔ ¬ o.error? = none := by
  rcases o with ⟨bytes, _ | fault⟩ <;> simp [write]

/-- Joined outputs are written one after the other. -/
theorem write_append (a b : Output) : (a ++ b).write = a.write >>= fun _ => b.write := by
  funext payload
  rcases a with ⟨bytes, _ | fault⟩
  · show write ⟨bytes ++ b.bytes, b.error?⟩ payload = b.write (payload ++ bytes)
    rcases b with ⟨bytes', _ | fault⟩ <;> simp [write]
  · rfl

/-- Outputs put out one by one are written one by one. -/
theorem write_each (f : α → Output) (as : List α) :
    (each f as).write = as.forM fun a => (f a).write := by
  induction as with
  | nil =>
    funext payload
    simp [each, write, of]
    rfl
  | cons a rest ih => rw [each, write_append, ih]; rfl

/-- All bytes or the fault are what a write into an empty payload gives. -/
theorem result_eq_write (o : Output) :
    o.result = match o.write [] with
      | .ok _ payload => .ok payload
      | .error e _ => .error e := by
  rcases o with ⟨bytes, _ | fault⟩ <;> rfl

/-- Of many outputs those up to the one with a fault are put out. -/
theorem each_of_stuck {f : α → Output} {front : List α} {stuck : α}
    (hfront : ∀ a ∈ front, (f a).error? = none) (hstuck : (f stuck).error? = some e) (behind : List α) :
    each f (front ++ stuck :: behind) =
      ⟨(front.flatMap fun a => (f a).bytes) ++ (f stuck).bytes, some e⟩ := by
  induction front with
  | nil =>
    rw [List.nil_append, each]
    rcases hout : f stuck with ⟨bytes, fault⟩
    rw [hout] at hstuck
    cases hstuck
    rfl
  | cons a rest ih =>
    obtain ⟨ha, hrest⟩ := List.forall_mem_cons.1 hfront
    rcases hout : f a with ⟨bytes, fault⟩
    rw [hout] at ha
    cases ha
    rw [List.cons_append, each, ih hrest, List.flatMap_cons, hout, mk_none_append, List.append_assoc]

/-- A fault in many outputs is that of one of them, and those in front of it have none. -/
theorem exists_stuck {f : α → Output} {as : List α} (h : (each f as).error? = some e) :
    ∃ front stuck behind, as = front ++ stuck :: behind ∧ (∀ a ∈ front, (f a).error? = none) ∧
      (f stuck).error? = some e := by
  induction as with
  | nil => cases h
  | cons a rest ih =>
    cases ha : (f a).error? with
    | some fault =>
      have hstuck := each_of_stuck (List.forall_mem_nil _) ha rest
      rw [List.nil_append] at hstuck
      rw [hstuck] at h
      cases h
      exact ⟨[], a, rest, rfl, List.forall_mem_nil _, ha⟩
    | none =>
      rcases hout : f a with ⟨bytes, fault⟩
      rw [hout] at ha
      cases ha
      rw [each, hout, mk_none_append] at h
      obtain ⟨front, stuck, behind, rfl, hfront, hstuck⟩ := ih h
      refine ⟨a :: front, stuck, behind, rfl, List.forall_mem_cons.2 ⟨?_, hfront⟩, hstuck⟩
      rw [hout]

end Output

/-- Encoding commands is writing them one after the other into an empty payload. -/
theorem Command.encodeAll_eq_write (cs : List Command) :
    Command.encodeAll cs = match cs.forM Command.write [] with
      | .ok _ payload => .ok payload
      | .error e _ => .error e := by
  rw [Command.encodeAll, Output.result_eq_write, Output.write_each]
  rfl

/-- Encoding responses is writing them one after the other into an empty payload. -/
theorem Response.encodeAll_eq_write (rs : List Response) :
    Response.encodeAll rs = match rs.forM Response.write [] with
      | .ok _ payload => .ok payload
      | .error e _ => .error e := by
  rw [Response.encodeAll, Output.result_eq_write, Output.write_each]
  rfl

/-! ## Commands -/

/-- The write of a command fails exactly if its content cannot be put together, and leaves the payload as it was. -/
theorem Command.write_eq_error_iff {c : Command} {payload left : Bytes} {e : Error} :
    c.write payload = .error e left ↔
      (Output.commandContent c).error? = some e ∧ left = payload := by
  rw [Command.write, Output.write_eq_error_iff, Output.command, Output.error?_enclose]
  refine and_congr_right fun he => ?_
  rw [Output.bytes_enclose_of_error he, List.append_nil]

/-! ## Responses -/

/-- What is written of a body up to an error. Of a value or a subscription's result it is nothing. Of the results of a
step it is their number and those in front of the first that cannot be put together. -/
inductive Body.Unfinished (e : Error) : Body → Bytes → Prop
  | value {report : ValueReport} (hstuck : (Output.valueContent report).error? = some e) :
    Unfinished e (.value report) []
  | subscription {result : SubscriptionResult}
    (hstuck : (Output.subscriptionContent result).error? = some e) :
    Unfinished e (.subscription result) []
  | simStep {front : List SubscriptionResult} {stuck : SubscriptionResult}
    (hfront : ∀ r ∈ front, r.CountsFit)
    (hstuck : (Output.subscriptionContent stuck).error? = some e) (behind : List SubscriptionResult) :
    Unfinished e (.simStep (front ++ stuck :: behind))
      ((Output.count (front ++ stuck :: behind).length).bytes ++
        front.flatMap fun r => extendedUnit (Output.subscriptionContent r).bytes)

namespace Output

/-- The units of results that can be put together, one after the other. -/
theorem flatMap_stepResult {results : List SubscriptionResult} (h : ∀ r ∈ results, r.CountsFit) :
    (results.flatMap fun r => ((subscriptionContent r).enclose extendedUnit).bytes) =
      results.flatMap fun r => extendedUnit (subscriptionContent r).bytes := by
  rw [List.flatMap_def, List.flatMap_def, List.map_congr_left fun r hr => ?_]
  exact bytes_enclose (error?_subscriptionContent_eq_none.2 (h r hr))

/-- With a result that cannot be written, the results of a step are written up to it, and its own up to its fault. -/
theorem responseBody_of_stuck {front : List SubscriptionResult} {stuck : SubscriptionResult}
    {e : Error} (hfront : ∀ r ∈ front, r.CountsFit)
    (hstuck : (subscriptionContent stuck).error? = some e) (behind : List SubscriptionResult) :
    responseBody (.simStep (front ++ stuck :: behind)) =
      ⟨(count (front ++ stuck :: behind).length).bytes ++
        front.flatMap fun r => extendedUnit (subscriptionContent r).bytes, some e⟩ := by
  have hunits : ∀ r ∈ front, ((subscriptionContent r).enclose extendedUnit).error? = none := by
    intro r hr
    rw [error?_enclose]
    exact error?_subscriptionContent_eq_none.2 (hfront r hr)
  have hunit : ((subscriptionContent stuck).enclose extendedUnit).error? = some e := by
    rw [error?_enclose, hstuck]
  rw [responseBody, list, each_of_stuck hunits hunit, flatMap_stepResult hfront,
    bytes_enclose_of_error hstuck, List.append_nil]
  rfl

/-- The writing of a body fails exactly with what is written of it up to an error. -/
theorem unfinished_iff {body : Body} {e : Error} {left : Bytes} :
    body.Unfinished e left ↔ (responseBody body).error? = some e ∧ left = (responseBody body).bytes := by
  constructor
  · intro h
    cases h with
    | value hstuck =>
      exact ⟨by rw [responseBody, error?_enclose, hstuck],
        by rw [responseBody, bytes_enclose_of_error hstuck]⟩
    | subscription hstuck =>
      exact ⟨by rw [responseBody, error?_enclose, hstuck],
        by rw [responseBody, bytes_enclose_of_error hstuck]⟩
    | simStep hfront hstuck behind =>
      rw [responseBody_of_stuck hfront hstuck]
      exact ⟨rfl, rfl⟩
  · rintro ⟨herr, rfl⟩
    cases body with
    | none => cases herr
    | version info => cases herr
    | value report =>
      rw [responseBody, error?_enclose] at herr
      rw [responseBody, bytes_enclose_of_error herr]
      exact .value herr
    | subscription result =>
      rw [responseBody, error?_enclose] at herr
      rw [responseBody, bytes_enclose_of_error herr]
      exact .subscription herr
    | simStep results =>
      have heach : (each (fun r => (subscriptionContent r).enclose extendedUnit) results).error? = some e :=
        herr
      obtain ⟨front, stuck, behind, rfl, hfront, hstuck⟩ := exists_stuck heach
      rw [error?_enclose] at hstuck
      have hfits : ∀ r ∈ front, r.CountsFit := by
        intro r hr
        have hr' := hfront r hr
        rw [error?_enclose] at hr'
        exact error?_subscriptionContent_eq_none.1 hr'
      rw [responseBody_of_stuck hfits hstuck]
      exact .simStep hfits hstuck behind

end Output

/-- The write of a response fails exactly if that of its body does, and leaves behind the payload the unit of its status
and what was written of the body. -/
theorem Response.write_eq_error_iff {r : Response} {payload left : Bytes} {e : Error} :
    r.write payload = .error e left ↔
      ∃ body, r.body.Unfinished e body ∧
        left = payload ++ (unit (Output.statusContent r.status).bytes ++ body) := by
  have herr : (Output.response r).error? = (Output.responseBody r.body).error? := rfl
  rw [Response.write, Output.write_eq_error_iff, herr, Output.bytes_response]
  constructor
  · rintro ⟨hbody, rfl⟩
    exact ⟨_, Output.unfinished_iff.2 ⟨hbody, rfl⟩, rfl⟩
  · rintro ⟨body, hbody, rfl⟩
    obtain ⟨hfault, rfl⟩ := Output.unfinished_iff.1 hbody
    exact ⟨hfault, rfl⟩

/-- The write of a command fails exactly on a list too long for its count of one byte, and then leaves the payload as it
was. That of a response fails on the same, and then never leaves the payload as it was: the status stays behind it, and
of a step the number of results and those that were put together before the one that could not be. -/
theorem failed_write_leaves (payload : Bytes) :
    (∀ c : Command, ((∃ e left, c.write payload = .error e left) ↔ ¬ c.CountsFit) ∧
      ∀ e left, c.write payload = .error e left → left = payload) ∧
      ∀ r : Response, ((∃ e left, r.write payload = .error e left) ↔ ¬ r.body.CountsFit) ∧
        ∀ e left, r.write payload = .error e left → left ≠ payload ∧
          ∃ body, r.body.Unfinished e body ∧
            left = payload ++ (unit (Output.statusContent r.status).bytes ++ body) := by
  refine ⟨fun c => ⟨?_, fun e left h => (Command.write_eq_error_iff.1 h).2⟩, fun r => ⟨?_, fun e left h => ?_⟩⟩
  · exact Output.exists_write_error_iff.trans (not_congr Output.error?_command_eq_none)
  · exact Output.exists_write_error_iff.trans (not_congr Output.error?_response_eq_none)
  · obtain ⟨body, hbody, rfl⟩ := Response.write_eq_error_iff.1 h
    refine ⟨fun hsame => ?_, body, hbody, rfl⟩
    have hnil := List.append_eq_nil_iff.1 (List.append_right_eq_self.1 hsame)
    exact unit_ne_nil _ hnil.1

/-- A polygon with a point too many, inside a compound, as the value of a set and as that of an answer. -/
theorem failed_write_leaves_polygon :
    let polygon := TypedValue.compound [.integer 1, .polygon (List.replicate 256 0)]
    let payload : Bytes := [7, 0x7F, 0, 0, 0, 0, 0]
    let set := Command.set .setPerson 0x42 "1" polygon
    let reply := Response.withBody .getPerson (.value ⟨.getPersonResponse, 0x42, "1", polygon⟩)
    (¬ set.CountsFit ∧ ∃ e left, set.write payload = .error e left ∧ left = payload) ∧
      ¬ reply.body.CountsFit ∧ ∃ e left, reply.write payload = .error e left ∧ left ≠ payload ∧
        ∃ body, reply.body.Unfinished e body ∧
          left = payload ++ (unit (Output.statusContent reply.status).bytes ++ body) := by
  intro polygon payload set reply
  have hset : ¬ set.CountsFit := by decide +kernel
  have hreply : ¬ reply.body.CountsFit := by decide +kernel
  obtain ⟨hcommands, hresponses⟩ := failed_write_leaves payload
  obtain ⟨e, left, hwrite⟩ := (hcommands set).1.2 hset
  obtain ⟨e', left', hwrite'⟩ := (hresponses reply).1.2 hreply
  exact ⟨⟨hset, e, left, hwrite, (hcommands set).2 e left hwrite⟩,
    hreply, e', left', hwrite', (hresponses reply).2 e' left' hwrite'⟩

/-- A step's answer with too many values in its only result, behind a response that was written whole. The number of
results stays behind the payload without the result, and so the payload can be read no more. -/
theorem Response.exists_torn_payload :
    ∃ (payload : Bytes) (rs : List Response) (r : Response) (e : Error) (left : Bytes),
      Response.parse payload = .ok rs ∧ r.write payload = .error e left ∧ left ≠ payload ∧
        ∃ e', Response.parse left = .error e' := by
  let stuck : SubscriptionResult :=
    ⟨.subscribePersonResponse, "1", List.replicate 256 ⟨0x42, .ok, .ubyte 7⟩⟩
  have hstuck : (Output.subscriptionContent stuck).error? = some (.protocol (.tooManyValues 256)) := by
    decide +kernel
  have hbody := Body.Unfinished.simStep (List.forall_mem_nil _) hstuck []
  refine ⟨[7, 0x7F, 0, 0, 0, 0, 0], [.ok .close], .simStep [stuck], _,
    [7, 0x7F, 0, 0, 0, 0, 0, 7, 0x02, 0, 0, 0, 0, 0, 0, 0, 0, 1], rfl,
    Response.write_eq_error_iff.2 ⟨_, hbody, by decide +kernel⟩, by decide, _, rfl⟩

end PedestrianControl
