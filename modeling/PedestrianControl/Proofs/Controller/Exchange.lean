import PedestrianControl.Controller
import PedestrianControl.Proofs.Session.Serving

/-!
# Exchanges

A controller that sends commands over an idle link gets exactly the responses that the server's router gives
to these commands one by one, up to a `close` (`Controller.send_apply`). Four formats meet here: commands
and responses, each in units and in a frame. The request is read back because commands are; the reply
because every response of the router is one whose body follows its status.

Whether there is a reply at all depends on the session's subscriptions. One with more than 255 variables has
a result that cannot be written (`Controller.not_forall_exists_encodeAll`). None can come over the wire,
where the number of variables is one byte, and where there is none, there is a reply and still none
(`Controller.send_standard`).
-/

namespace PedestrianControl

variable {σ : Type}

/-- Nothing is under way on the link: the session of the controller's connection is open, and either side
has read all that came from the other. -/
structure Link.Idle (link : Link σ) (s : Session) : Prop where
  session : link.server.session? link.controller.connection = some s
  connected : s.isConnected = true
  unread : s.unread = []
  received : link.controller.received = []

/-- The link with the session and the shared state replaced. -/
def Link.withSession (link : Link σ) (s : Session) (shared : Shared σ) : Link σ :=
  { link with server := { link.server.keep link.controller.connection s with shared } }

namespace Controller

variable [Simulation σ] {link : Link σ} {s : Session}

/-- A frame sent over an idle link is served, and the replies are received. -/
theorem transmit_apply (h : link.Idle s) (payload : Bytes) :
    transmit payload link =
      let served := s.receive link.server.router link.server.config.maxFrameSize
        (Frame.encode payload) link.server.shared
      .ok ⟨⟩
        { link.withSession served.session served.shared with
          controller := { link.controller with received := served.replies.flatten } } := by
  rw [transmit, Server.arrive, h.session]
  dsimp only
  rw [if_pos h.connected, h.received, List.nil_append]
  rfl

omit [Simulation σ] in
/-- A whole frame received is taken for its payload. -/
theorem nextFrame_apply {payload : Bytes} (hne : payload ≠ [])
    (hlimit : payload.length + Frame.lengthField ≤ Frame.defaultLimit)
    (hreceived : link.controller.received = Frame.encode payload) :
    nextFrame link =
      .ok payload { link with controller := { link.controller with received := [] } } := by
  have hlt : payload.length + Frame.lengthField < 2 ^ 31 :=
    Nat.lt_of_le_of_lt hlimit (by decide)
  rw [nextFrame, hreceived, ← List.append_nil (Frame.encode payload),
    Frame.front_encode hne hlimit hlt]

/-- A request over an idle link is answered with the responses of the router to its commands. The link is
left idle, unless a `close` was among them. -/
theorem send_apply (hsound : link.server.router.registry.Sound) (hidle : link.Idle s)
    {commands : List Command} (hne : commands ≠ []) (hkinds : ∀ c ∈ commands, c.WellKinded)
    {request reply : Bytes} (hrequest : Command.encodeAll commands = .ok request)
    (hlimit : request.length + Frame.lengthField ≤ link.server.config.maxFrameSize)
    (hlt : request.length + Frame.lengthField < 2 ^ 31)
    (hreply : Response.encodeAll (link.server.router.routeEach (Command.upToClose commands)
      s.subscriptions link.server.shared).1 = .ok reply)
    (hanswerable : reply.length + Frame.lengthField ≤ Frame.defaultLimit) :
    let routed := link.server.router.routeEach (Command.upToClose commands) s.subscriptions
      link.server.shared
    send commands link = .ok routed.1
      (link.withSession
        ⟨routed.2.1, [], if commands.any Command.isClose then some .closed else none⟩ routed.2.2) := by
  intro routed
  -- what either side reads is what the other wrote
  have hparse : Command.parse request = .ok commands :=
    Command.parse_of_encodeAll hkinds hrequest (by omega)
  have hupTo : ∀ c ∈ Command.upToClose commands, c.WellKinded :=
    fun c hc => hkinds c (Command.mem_of_mem_upToClose hc)
  have hread : Response.parse reply = .ok routed.1 := by
    refine Router.parse_of_encodeAll_routeEach hsound hupTo hreply ?_
    exact Nat.lt_of_le_of_lt (Nat.le_of_add_right_le hanswerable) (by decide)
  have hrequestNe : request ≠ [] := List.ne_nil_of_length_pos
    (Nat.lt_of_lt_of_le (List.length_pos_iff.2 hne) (Command.length_le_of_encodeAll hrequest))
  have hreplyNe : reply ≠ [] := by
    have hlength := Response.length_le_of_encodeAll hreply
    rw [Router.length_routeEach] at hlength
    exact List.ne_nil_of_length_pos
      (Nat.lt_of_lt_of_le (List.length_pos_iff.2 (Command.upToClose_ne_nil hne)) hlength)
  -- one frame goes each way
  have hserved : s.receive link.server.router link.server.config.maxFrameSize (Frame.encode request)
      link.server.shared = s.perform link.server.router request link.server.shared :=
    Session.receive_encode hidle.connected hidle.unread hrequestNe hlimit hlt
  rw [Session.perform_of_encodeAll hparse hreply] at hserved
  have hsent := transmit_apply hidle request
  rw [hserved] at hsent
  dsimp only at hsent
  rw [List.flatten_singleton, hidle.unread] at hsent
  rw [send, hrequest]
  dsimp only
  rw [bind_of_ok hsent, bind_of_ok (nextFrame_apply hreplyNe hanswerable rfl), hread]
  dsimp only
  rw [← hidle.received]
  rfl

/-- With the registry of the server, a request over an idle link is answered with the responses of the
router to its commands, whatever the world, the files, the driver and the subscriptions are, if they can be
encoded and the controller takes so long a frame. They can be encoded if no subscription has more than 255
variables, and then none has afterwards. -/
theorem send_standard {link : Link World} {s : Session}
    (hstandard : link.server.router.registry = .standard) (hidle : link.Idle s)
    {commands : List Command} (hne : commands ≠ []) (hkinds : ∀ c ∈ commands, c.WellKinded)
    {request : Bytes} (hrequest : Command.encodeAll commands = .ok request)
    (hlimit : request.length + Frame.lengthField ≤ link.server.config.maxFrameSize)
    (hlt : request.length + Frame.lengthField < 2 ^ 31) :
    let routed := link.server.router.routeEach (Command.upToClose commands) s.subscriptions
      link.server.shared
    (∀ reply, Response.encodeAll routed.1 = .ok reply →
      reply.length + Frame.lengthField ≤ Frame.defaultLimit →
      send commands link = .ok routed.1 (link.withSession
        ⟨routed.2.1, [], if commands.any Command.isClose then some .closed else none⟩ routed.2.2)) ∧
    (s.subscriptions.VarsFit →
      (∃ reply, Response.encodeAll routed.1 = .ok reply) ∧ routed.2.1.VarsFit) := by
  intro routed
  have hsound : link.server.router.registry.Sound := hstandard ▸ Registry.sound_standard
  have hvars : ∀ c ∈ Command.upToClose commands, c.VarsFit :=
    fun c hc => (Command.countsFit_of_encodeAll hrequest c (Command.mem_of_mem_upToClose hc)).varsFit
  refine ⟨fun reply hreply hanswerable => ?_, fun hsubs => ⟨?_, ?_⟩⟩
  · exact send_apply hsound hidle hne hkinds hrequest hlimit hlt hreply hanswerable
  · exact Router.exists_encodeAll_routeEach hsound hvars hsubs link.server.shared
  · exact Router.varsFit_routeEach hvars hsubs link.server.shared

/-- A link to a server with nobody in its world, whose session has these subscriptions. -/
def toEmptyWorld (subs : Subscriptions) : Link World where
  controller := ⟨0, []⟩
  server := {
    config := .usual
    router := ⟨.standard, Config.usual.dataDirectory⟩
    shared := ⟨⟨.empty Config.usual.stepLength, 0, 0, .running⟩, .inDirectory []⟩
    sessions := [(0, ⟨subs, [], none⟩)] }

/-- Nothing is under way on such a link. -/
theorem idle_toEmptyWorld (subs : Subscriptions) : (toEmptyWorld subs).Idle ⟨subs, [], none⟩ :=
  ⟨rfl, rfl, rfl, rfl⟩

/-- Five commands with a close before the last, sent to a standard server. -/
theorem send_standard_batch :
    let commands := [.subscribe ⟨.subscribePerson, Subscription.unbounded, Subscription.unbounded,
      "1", [0x40, 0x42]⟩, .simStep 0, .get .getPerson 0x00 "", .close, .getVersion]
    let request := commands.flatMap fun c => (Output.command c).bytes
    let link := toEmptyWorld .empty
    let routed := link.server.router.routeEach (Command.upToClose commands) .empty link.server.shared
    (link.server.router.registry = .standard ∧ link.Idle ⟨.empty, [], none⟩ ∧ commands ≠ [] ∧
      (∀ c ∈ commands, c.WellKinded) ∧ Command.encodeAll commands = .ok request ∧
      request.length + Frame.lengthField ≤ link.server.config.maxFrameSize ∧
      request.length + Frame.lengthField < 2 ^ 31) ∧
    ∃ reply, Response.encodeAll routed.1 = .ok reply ∧
      reply.length + Frame.lengthField ≤ Frame.defaultLimit ∧
      send commands link
        = .ok routed.1 (link.withSession ⟨routed.2.1, [], some .closed⟩ routed.2.2) := by
  intro commands request link routed
  have hkinds : ∀ c ∈ commands, c.WellKinded := by decide
  have hrequest : Command.encodeAll commands = .ok request :=
    Command.encodeAll_of_countsFit (by decide)
  have hlength : request.length + Frame.lengthField ≤ 200 := by decide +kernel
  have hlimit : request.length + Frame.lengthField ≤ link.server.config.maxFrameSize :=
    Nat.le_trans hlength (by decide)
  have hlt : request.length + Frame.lengthField < 2 ^ 31 := Nat.lt_of_le_of_lt hlength (by decide)
  have hstandard : link.server.router.registry = .standard := rfl
  have hidle : link.Idle ⟨.empty, [], none⟩ := idle_toEmptyWorld .empty
  obtain ⟨hsend, hencode⟩ := send_standard hstandard hidle (List.cons_ne_nil _ _) hkinds hrequest
    hlimit hlt
  obtain ⟨⟨reply, hreply⟩, -⟩ := hencode Subscriptions.varsFit_empty
  have hanswerable : ∀ bytes ∈ (Response.encodeAll routed.1).toOption,
      bytes.length + Frame.lengthField ≤ Frame.defaultLimit := by decide +kernel
  have hshort := hanswerable reply (by rw [hreply]; rfl)
  exact ⟨⟨hstandard, hidle, List.cons_ne_nil _ _, hkinds, hrequest, hlimit, hlt⟩, reply, hreply,
    hshort, hsend reply hreply hshort⟩

/-- Not for all subscriptions can the responses be encoded: one with 256 variables is answered in a step,
but the number of its values does not fit one byte. -/
theorem not_forall_exists_encodeAll :
    ¬ ∀ (link : Link World) (s : Session) (commands : List Command) (request : Bytes),
      link.server.router.registry = .standard → link.Idle s → commands ≠ [] →
      (∀ c ∈ commands, c.WellKinded) → Command.encodeAll commands = .ok request →
      request.length + Frame.lengthField ≤ link.server.config.maxFrameSize →
      request.length + Frame.lengthField < 2 ^ 31 →
      ∃ reply, Response.encodeAll (link.server.router.routeEach (Command.upToClose commands)
        s.subscriptions link.server.shared).1 = .ok reply := by
  intro h
  let subs : Subscriptions := ⟨[⟨.subscribePerson, Subscription.unbounded, Subscription.unbounded,
    "1", List.replicate 256 0x42⟩]⟩
  obtain ⟨reply, hreply⟩ := h (toEmptyWorld subs) ⟨subs, [], none⟩ [.simStep 0] _ rfl
    (idle_toEmptyWorld subs) (List.cons_ne_nil _ _) (by decide)
    (Command.encodeAll_of_countsFit (by decide)) (by decide) (by decide)
  have hfails : (Response.encodeAll ((toEmptyWorld subs).server.router.routeEach
      (Command.upToClose [.simStep 0]) subs (toEmptyWorld subs).server.shared).1).toOption = none := by
    decide +kernel
  rw [hreply] at hfails
  cases hfails

end Controller

end PedestrianControl
