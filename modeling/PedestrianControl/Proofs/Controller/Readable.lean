import PedestrianControl.Proofs.Controller.Exchange
import PedestrianControl.Proofs.Routing.Room
import PedestrianControl.Proofs.Session.Transcript
import PedestrianControl.Proofs.Wire.Accepted

/-!
# Which replies a controller can read

A session sends its reply however long it has become, and a controller refuses a frame that is longer than the
usual limit. A reply is the frame of the responses to the commands of the request, up to the first `close`, and so it
is read as these responses exactly if it is within the limit. How long it can become is known before: it is no longer
than the room of the commands answered in it (`Session.readable_within_room`).

The room may be more than the limit, even for a request that is far below it. One subscription to the same
variable many times over, of an element with a long name, is answered with the name in each error, and the
controller refuses the reply (`Controller.send_refused`).
-/

namespace PedestrianControl

/-! ## Replies within the limit -/

/-- A controller takes the reply, whatever comes behind it, for a frame of these responses. -/
def ReadableAs (reply : Bytes) (answers : List Response) : Prop :=
  ∃ payload, (∀ rest, Frame.front Frame.defaultLimit (reply ++ rest) = .complete payload rest) ∧
    Response.parse payload = .ok answers

/-- A controller reads the frame of a payload exactly if the frame is within its limit. -/
theorem readableAs_encode_iff {payload : Bytes} {answers : List Response} (hne : payload ≠ [])
    (hparse : payload.length < 2 ^ 31 → Response.parse payload = .ok answers) :
    ReadableAs (Frame.encode payload) answers ↔ (Frame.encode payload).length ≤ Frame.defaultLimit := by
  constructor
  · rintro ⟨taken, hfront, -⟩
    obtain ⟨length, hlength, heq⟩ := Frame.eq_of_front_complete (hfront [])
    have hlimit := (Frame.eq_of_payloadLength hlength).2.1
    rw [List.append_nil, List.append_nil] at heq
    rw [heq, List.length_append, Frame.length_header]
    omega
  · intro hlimit
    rw [Frame.length_encode, Nat.add_comm] at hlimit
    have hlt : payload.length + Frame.lengthField < 2 ^ 31 := Nat.lt_of_le_of_lt hlimit (by decide)
    exact ⟨payload, Frame.front_encode hne hlimit hlt, hparse (by omega)⟩

namespace Session

variable {σ : Type} [Simulation σ] {r : Router σ}

/-- A reply is a frame of the responses to the commands of a well-formed payload. -/
theorem of_mem_perform {payload reply : Bytes} {s : Session} {shared : Shared σ}
    (h : reply ∈ (perform r payload s shared).replies) :
    ∃ commands answer, Command.parse payload = .ok commands ∧
      Response.encodeAll (r.routeEach (Command.upToClose commands) s.subscriptions shared).1 = .ok answer ∧
      reply = Frame.encode answer := by
  cases hparse : Command.parse payload with
  | error e =>
    rw [perform_of_malformed hparse] at h
    cases h
  | ok commands =>
    cases hencode : Response.encodeAll
        (r.routeEach (Command.upToClose commands) s.subscriptions shared).1 with
    | error e =>
      rw [perform, hparse] at h
      dsimp only at h
      rw [r.routeAll_eq] at h
      dsimp only at h
      rw [hencode] at h
      cases h
    | ok answer =>
      rw [perform_of_encodeAll hparse hencode] at h
      exact ⟨commands, answer, rfl, hencode, List.mem_singleton.1 h⟩

/-- Whatever the session has done before, and whatever the world and the files are: the reply to a frame that
was taken is the frame of the responses to its commands up to the first `close`. It is no longer than the room for
these commands, each in the state in which it is carried out; and a controller reads it, as these responses, exactly if
it is no longer than the usual limit. -/
theorem readable_within_room (directory : String) (s : Session) (shared : Shared World) {limit : Nat}
    {arrived request rest reply : Bytes} (hrequest : Frame.front limit arrived = .complete request rest)
    (hreply : reply ∈ (s.perform ⟨.standard, directory⟩ request shared).replies) :
    let r : Router World := ⟨.standard, directory⟩
    ∃ commands answer, Command.parse request = .ok commands ∧
      Response.encodeAll (r.routeEach (Command.upToClose commands) s.subscriptions shared).1 = .ok answer ∧
      reply = Frame.encode answer ∧
      reply.length ≤
        Frame.lengthField + r.roomEach (Command.upToClose commands) s.subscriptions shared ∧
      (ReadableAs reply (r.routeEach (Command.upToClose commands) s.subscriptions shared).1 ↔
        reply.length ≤ Frame.defaultLimit) := by
  intro r
  obtain ⟨commands, answer, hparse, hencode, rfl⟩ := of_mem_perform hreply
  have hne : request ≠ [] := by
    obtain ⟨length, hlength, -⟩ := Frame.eq_of_front_complete hrequest
    exact List.ne_nil_of_length_pos (Frame.eq_of_payloadLength hlength).1
  have hanswer : answer ≠ [] := by
    have hlength := Response.length_le_of_encodeAll hencode
    rw [Router.length_routeEach] at hlength
    have hpos := List.length_pos_iff.2 (Command.upToClose_ne_nil (Command.ne_nil_of_parse hne hparse))
    exact List.ne_nil_of_length_pos (Nat.lt_of_lt_of_le hpos hlength)
  have hkinds := (Command.of_parse_upToClose hparse).1
  have hroom := Nat.le_trans (Response.length_encodeAll_le hencode fun response _ => Nat.le_refl _)
    (Router.length_routeEach_le directory s.subscriptions shared (Command.upToClose commands))
  refine ⟨commands, answer, hparse, hencode, rfl, ?_, readableAs_encode_iff hanswer ?_⟩
  · rw [Frame.length_encode]
    exact Nat.add_le_add_left hroom _
  · exact Router.parse_of_encodeAll_routeEach Registry.sound_standard hkinds hencode

/-- A value that cannot be had and a step with a subscription to it, in one frame. -/
theorem readable_within_room_step :
    let watch : Subscription :=
      ⟨.subscribePerson, Subscription.unbounded, Subscription.unbounded, "7", [0x40, 0x00]⟩
    let s : Session := ⟨⟨[watch]⟩, [], none⟩
    let shared : Shared World :=
      ⟨⟨World.empty ⟨0x3FD999999999999A⟩, 0, 0, .running⟩, { entries := [], workingDirectory := [] }⟩
    let r : Router World := ⟨.standard, "data"⟩
    let commands : List Command := [.get .getPerson 0x40 "7", .simStep 0]
    let request := commands.flatMap fun c => (Output.command c).bytes
    Frame.front Frame.defaultLimit (Frame.encode request) = .complete request [] ∧
      ∃ reply ∈ (s.perform r request shared).replies, ∃ answer,
        Response.encodeAll (r.routeEach commands s.subscriptions shared).1 = .ok answer ∧
        reply = Frame.encode answer ∧
        reply.length ≤ Frame.lengthField + r.roomEach commands s.subscriptions shared ∧
        ReadableAs reply (r.routeEach commands s.subscriptions shared).1 := by
  intro watch s shared r commands request
  have hfront : Frame.front Frame.defaultLimit (Frame.encode request) = .complete request [] := by
    rw [← List.append_nil (Frame.encode request)]
    exact Frame.front_encode (by decide) (by decide) (by decide) []
  have hparsed : Command.parse request = .ok commands :=
    Command.parse_of_encodeAll (by decide) (Command.encodeAll_of_countsFit (by decide)) (by decide)
  have hone : (s.perform r request shared).replies ≠ [] := by decide +kernel
  have hshort : ∀ reply ∈ (s.perform r request shared).replies, reply.length ≤ Frame.defaultLimit := by
    decide +kernel
  obtain ⟨reply, hreply⟩ := List.exists_mem_of_ne_nil _ hone
  obtain ⟨commands', answer, hparse, hencode, hframe, hroom, hread⟩ :=
    readable_within_room "data" s shared hfront hreply
  obtain rfl := Except.ok.inj (hparse.symm.trans hparsed)
  exact ⟨hfront, reply, hreply, answer, hencode, hframe, hroom, hread.2 (hshort reply hreply)⟩

end Session

/-! ## A reply above the limit -/

namespace Person

variable {w : World} {element : String}

/-- Where nobody has the name, the speed is answered with an error that repeats it. -/
theorem subscribedValue_speed (h : named? w element = none) :
    surface.subscribedValue element PersonVariable.speed.code w =
      (⟨PersonVariable.speed.code, .error, .string (HandlerError.elementNotFound element).message⟩, w) := by
  have hnamed : named w element = .error (.elementNotFound element) := by rw [named, h]
  have hcall : surface.call surface.opcodes.get ⟨PersonVariable.speed.code, element, none⟩ w =
      (.error (.elementNotFound element), w) := by
    show (some <$> ((fun p => TypedValue.double p.velocity.length) <$> named w element), w) = _
    rw [hnamed]
    rfl
  rw [Surface.subscribedValue_apply, hcall]
  rfl

/-- Asked for many times over, it is answered as many times. -/
theorem subscriptionResult_speed (h : named? w element = none) (n : Nat) :
    surface.subscriptionResult element (List.replicate n PersonVariable.speed.code) w =
      (⟨.subscribePersonResponse, element, List.replicate n
        ⟨PersonVariable.speed.code, .error, .string (HandlerError.elementNotFound element).message⟩⟩, w) := by
  have hvalues : (List.replicate n PersonVariable.speed.code).mapM (surface.subscribedValue element) w =
      (List.replicate n
        ⟨PersonVariable.speed.code, .error, .string (HandlerError.elementNotFound element).message⟩, w) := by
    induction n with
    | zero => rfl
    | succ n ih =>
      rw [List.replicate_succ, StateM.mapM_cons, subscribedValue_speed h]
      dsimp only
      rw [ih]
      rfl
  show (SubscriptionResult.mk _ element
    ((List.replicate n PersonVariable.speed.code).mapM (surface.subscribedValue element) w).1,
    ((List.replicate n PersonVariable.speed.code).mapM (surface.subscribedValue element) w).2) = _
  rw [hvalues]
  rfl

end Person

/-- The longest subscription to the speed of somebody who is not there repeats the name in each of 255 errors. -/
theorem length_response_speed {w : World} {element : String} (h : Person.named? w element = none) :
    (Output.response (.withBody .subscribePerson (.subscription (Person.surface.subscriptionResult element
      (List.replicate 255 PersonVariable.speed.code) w).1))).bytes.length
        = 256 * element.utf8ByteSize + 6903 := by
  let missing : SubscribedValue :=
    ⟨PersonVariable.speed.code, .error, .string (HandlerError.elementNotFound element).message⟩
  let result : SubscriptionResult := ⟨.subscribePersonResponse, element, List.replicate 255 missing⟩
  have hcontent : (Output.subscriptionContent result).bytes.length = 256 * element.utf8ByteSize + 6891 := by
    have hvalue : missing.value.PolygonsFit := trivial
    rw [Output.length_subscriptionContent_replicate _ _ hvalue (by decide), Output.length_typed_string,
      HandlerError.size_elementNotFound]
    omega
  have hfit : (Output.subscriptionContent result).error? = none :=
    Output.error?_subscriptionContent_eq_none.2
      ⟨Nat.le_of_eq List.length_replicate, fun v hv => List.eq_of_mem_replicate hv ▸ trivial⟩
  have hlong : shortUnitLimit < (Output.subscriptionContent result).bytes.length := by
    rw [hcontent, shortUnitLimit]
    omega
  have hbody : (Output.responseBody (.subscription result)).bytes.length =
      256 * element.utf8ByteSize + 6896 := by
    rw [Output.responseBody, Output.bytes_enclose hfit, Output.length_unit_of_lt hlong, hcontent]
  rw [Person.subscriptionResult_speed h, Output.length_withBody]
  show 7 + (Output.responseBody (.subscription result)).bytes.length = _
  omega

/-- A subscription to some variables is answered with its result in the state now. -/
theorem Router.routeEach_subscribe {σ : Type} [Simulation σ] {r : Router σ} {s : Subscription}
    {surface : Surface σ} (hsurface : r.registry.surface? s.opcode = some surface)
    (hvars : s.vars.isEmpty = false) (subs : Subscriptions) (shared : Shared σ) :
    (r.routeEach [.subscribe s] subs shared).1 = [.withBody s.opcode
      (.subscription (surface.subscriptionResult s.element s.vars shared.bridge.state).1)] := by
  show [(r.subscribe s subs shared).1] = _
  rw [subscribe, hsurface]
  dsimp only
  rw [hvars, if_neg Bool.false_ne_true]
  rfl

/-- Nobody is in an empty world. -/
theorem Person.named?_empty (stepLength : Double) (element : String) :
    named? (World.empty stepLength) element = none := by
  rw [named?]
  cases Decimal.int32? element.toList <;> rfl

/-- The longest subscription to the speed of an element. -/
def speedWatch (element : String) : Subscription :=
  ⟨.subscribePerson, Subscription.unbounded, Subscription.unbounded, element,
    List.replicate 255 PersonVariable.speed.code⟩

/-- The watched variables fit the one byte that counts them. -/
theorem length_vars_speedWatch (element : String) : (speedWatch element).vars.length ≤ 255 :=
  Nat.le_of_eq List.length_replicate

/-- How long the subscription is: the id in its long form, and 282 bytes around it. -/
theorem length_command_speedWatch {element : String} (hlong : shortUnitLimit < element.utf8ByteSize) :
    (Output.command (.subscribe (speedWatch element))).bytes.length = element.utf8ByteSize + 282 := by
  have hfit : (Command.subscribe (speedWatch element)).CountsFit := length_vars_speedWatch element
  have hcontent : (Output.commandContent (.subscribe (speedWatch element))).bytes.length =
      element.utf8ByteSize + 277 := by
    rw [Output.commandContent, Output.commandLayout, if_pos (length_vars_speedWatch element),
      Output.bytes_append rfl, Output.bytes_append rfl, Output.bytes_append rfl, Output.bytes_append rfl]
    simp only [List.length_append, Output.length_string]
    show 1 + (16 + (element.utf8ByteSize + 4) + 1 + (List.replicate 255 _).length) = _
    rw [List.length_replicate]
    omega
  have hunit : shortUnitLimit < (Output.commandContent (.subscribe (speedWatch element))).bytes.length := by
    omega
  rw [Output.bytes_command hfit, Output.length_unit_of_lt hunit, hcontent]

/-- Its answer repeats the name in every value. -/
theorem exists_answer_speedWatch (directory : String) {shared : Shared World} {element : String}
    (h : Person.named? shared.bridge.state element = none) :
    let r : Router World := ⟨.standard, directory⟩
    ∃ answer, Response.encodeAll (r.routeEach [.subscribe (speedWatch element)] .empty shared).1 =
        .ok answer ∧ answer.length = 256 * element.utf8ByteSize + 6903 := by
  intro r
  have hsurface : r.registry.surface? (speedWatch element).opcode = some Person.surface := rfl
  have hvars : (speedWatch element).vars.isEmpty = false := rfl
  have hresult : (Person.surface.subscriptionResult element (speedWatch element).vars
      shared.bridge.state).1.CountsFit :=
    Person.sound_surface.subscriptionResult_countsFit element (length_vars_speedWatch element)
  refine ⟨_, ?_, length_response_speed h⟩
  rw [Router.routeEach_subscribe hsurface hvars]
  exact Response.encodeAll_singleton hresult

namespace Controller

/-- A controller gives up on a reply with a length that it does not take. -/
theorem send_of_fault {σ : Type} [Simulation σ] {link : Link σ} {s : Session} (hidle : link.Idle s)
    {commands : List Command} {request reply : Bytes} {e : Error}
    (hrequest : Command.encodeAll commands = .ok request)
    (hreplies : (s.receive link.server.router link.server.config.maxFrameSize (Frame.encode request)
      link.server.shared).replies = [reply])
    (hfront : Frame.front Frame.defaultLimit reply = .fault e) : ∃ after, send commands link = .error e after := by
  obtain ⟨between, hsent, hreceived⟩ :
      ∃ between, transmit request link = .ok ⟨⟩ between ∧ between.controller.received = reply := by
    refine ⟨_, transmit_apply hidle request, ?_⟩
    dsimp only
    rw [hreplies, List.flatten_singleton]
  obtain ⟨after, hnext⟩ : ∃ after, nextFrame between = .error e after := by
    simp only [nextFrame, hreceived, hfront]
    exact ⟨_, rfl⟩
  refine ⟨after, ?_⟩
  rw [send, hrequest]
  dsimp only
  rw [bind_of_ok hsent, bind_of_error hnext]

/-- Sent to a server with nobody in its world, it is answered with a reply that is refused for its length, once
the name is long enough. -/
theorem send_speedWatch {element : String} (hlong : 65536 ≤ element.utf8ByteSize)
    (hshort : element.utf8ByteSize < 2 ^ 22) :
    let link := toEmptyWorld .empty
    let request := (Output.command (.subscribe (speedWatch element))).bytes
    (Frame.encode request).length = element.utf8ByteSize + 286 ∧
      Frame.front Frame.defaultLimit (Frame.encode request) = .complete request [] ∧
      ∃ reply, (Session.start.perform link.server.router request link.server.shared).replies = [reply] ∧
        reply.length = 256 * element.utf8ByteSize + 6907 ∧
        ∃ after, send [.subscribe (speedWatch element)] link =
          .error (.frame (.tooLarge reply.length Frame.defaultLimit)) after := by
  intro link request
  have hfit : (Command.subscribe (speedWatch element)).CountsFit := length_vars_speedWatch element
  have hkind : ∀ c ∈ [Command.subscribe (speedWatch element)], c.WellKinded :=
    List.forall_mem_singleton.2 rfl
  -- the request is an ordinary one
  have hencode : Command.encodeAll [.subscribe (speedWatch element)] = .ok request := by
    rw [Command.encodeAll_of_countsFit (List.forall_mem_singleton.2 hfit), List.flatMap_singleton]
  have hlength : request.length = element.utf8ByteSize + 282 :=
    length_command_speedWatch (Nat.lt_of_lt_of_le (by decide) hlong)
  have hne : request ≠ [] := List.ne_nil_of_length_pos (by omega)
  have hlimit : request.length + Frame.lengthField ≤ Frame.defaultLimit := by
    rw [hlength, Frame.lengthField, Frame.defaultLimit]
    omega
  have hlt : request.length + Frame.lengthField < 2 ^ 31 := Nat.lt_of_le_of_lt hlimit (by decide)
  have hparse := Command.parse_of_encodeAll hkind hencode (by omega)
  -- the reply is not
  have hnobody : Person.named? link.server.shared.bridge.state element = none :=
    Person.named?_empty Config.usual.stepLength element
  obtain ⟨answer, hanswer, hanswerLength⟩ :=
    exists_answer_speedWatch Config.usual.dataDirectory hnobody
  have hanswerNe : answer ≠ [] := List.ne_nil_of_length_pos (by omega)
  have hperform := Session.perform_of_encodeAll (s := .start) hparse hanswer
  have hreply : (Frame.encode answer).length = 256 * element.utf8ByteSize + 6907 := by
    rw [Frame.length_encode, hanswerLength, Frame.lengthField]
    omega
  have hreplies : (Session.start.perform link.server.router request link.server.shared).replies =
      [Frame.encode answer] := congrArg Served.replies hperform
  have hserved : Session.start.receive link.server.router link.server.config.maxFrameSize
      (Frame.encode request) link.server.shared =
        Session.start.perform link.server.router request link.server.shared :=
    Session.receive_encode rfl rfl hne hlimit hlt
  have hfront : Frame.front Frame.defaultLimit (Frame.encode answer ++ []) =
      .fault (.frame (.tooLarge (Frame.encode answer).length Frame.defaultLimit)) := by
    rw [Frame.front_encode_of_lt hanswerNe, Frame.length_encode, Nat.add_comm]
    · rw [hanswerLength, Frame.lengthField, Frame.defaultLimit]
      omega
    · rw [hanswerLength, Frame.lengthField]
      omega
  rw [List.append_nil] at hfront
  refine ⟨?_, ?_, Frame.encode answer, hreplies, hreply, ?_⟩
  · rw [Frame.length_encode, hlength, Frame.lengthField]
    omega
  · rw [← List.append_nil (Frame.encode request)]
    exact Frame.front_encode hne hlimit hlt []
  · exact send_of_fault (idle_toEmptyWorld .empty) hencode (hserved ▸ hreplies) hfront

/-- A controller subscribes to the speed of somebody with a name of 65536 letters who is not there, 255 times in
one subscription. The request is a frame of 65822 bytes, and a server with the usual limit takes it. The reply is
a frame of 16784123 bytes, and the controller refuses it. -/
theorem send_refused :
    let element := String.ofList (List.replicate 65536 'x')
    let watch := speedWatch element
    let link := toEmptyWorld .empty
    let request := (Output.command (.subscribe watch)).bytes
    link.server.config.maxFrameSize = Frame.defaultLimit ∧ (Frame.encode request).length = 65822 ∧
      Frame.front Frame.defaultLimit (Frame.encode request) = .complete request [] ∧
      ∃ reply, (Session.start.perform link.server.router request link.server.shared).replies = [reply] ∧
        reply.length = 16784123 ∧
        ∃ after, send [.subscribe watch] link =
          .error (.frame (.tooLarge 16784123 Frame.defaultLimit)) after := by
  intro element watch link request
  have hsize : element.utf8ByteSize = 65536 := by
    rw [Text.size_ofList_eq_length fun c hc => by rw [List.eq_of_mem_replicate hc]; decide]
    exact List.length_replicate
  obtain ⟨hlength, hfront, reply, hreply, hlong, after, hsend⟩ :=
    send_speedWatch (Nat.le_of_eq hsize.symm) (hsize ▸ by decide)
  rw [hsize] at hlength hlong
  rw [hlong] at hsend
  exact ⟨rfl, hlength, hfront, reply, hreply, hlong, after, hsend⟩

end Controller

end PedestrianControl
