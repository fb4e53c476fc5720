import PedestrianControl.Proofs.Routing.Watching
import PedestrianControl.Proofs.Session.Transcript
import PedestrianControl.Server

/-!
# Who influences whom

The sessions of a server have in common the simulation, its step counters and the files, and know nothing else
of each other. So a session that leaves these as they are has no influence on the others: take away all that
happened on its connection, and the others receive the same bytes, end in the same way, and leave the same
simulation and files behind (`Server.handleAll_without_reader`).

Such is every session whose frames hold nothing but commands that only read, up to the first point at which
it ends (`OnlyReads`). A malformed frame is such a point, as is a `close`.
-/

namespace PedestrianControl

variable {σ : Type} [Simulation σ]

/-! ## Sessions that only read -/

/-- A stream whose frames hold only commands that read, as far as a session carries them out. -/
def OnlyReads (limit : Nat) (stream : Bytes) : Prop :=
  ∃ batches ending, Transcript limit stream batches ending ∧
    ∀ commands ∈ batches, ∀ c ∈ commands, c.isReadOnly = true

namespace Router

variable {r : Router σ}

/-- With surfaces that only read, commands that do leave alone all that sessions share. -/
theorem shared_routeEach (h : r.registry.ReadsOnly) {cs : List Command}
    (hkinds : ∀ c ∈ cs, c.WellKinded) (hcs : ∀ c ∈ cs, c.isReadOnly = true) (subs : Subscriptions)
    (shared : Shared σ) : (r.routeEach cs subs shared).2.2 = shared := by
  induction cs generalizing subs with
  | nil => rfl
  | cons c rest ih =>
    obtain ⟨hkind, hkinds⟩ := List.forall_mem_cons.1 hkinds
    obtain ⟨hc, hrest⟩ := List.forall_mem_cons.1 hcs
    have hfirst := shared_route_of_isReadOnly h hkind hc subs shared
    simp only [routeEach, hfirst]
    exact ih hkinds hrest _

end Router

namespace Session

variable {r : Router σ} {limit : Nat}

/-- A payload whose commands only read leaves all that is shared as it was. -/
theorem shared_perform (h : r.registry.ReadsOnly) {payload : Bytes} {commands : List Command}
    (hparse : Command.parse payload = .ok commands) (hreads : ∀ c ∈ commands, c.isReadOnly = true)
    (s : Session) (shared : Shared σ) : (perform r payload s shared).shared = shared := by
  have hkinds := (Command.of_parse_upToClose hparse).1
  have hdone : (r.routeAll commands s.subscriptions shared).shared = shared := by
    rw [r.routeAll_eq]
    exact Router.shared_routeEach h hkinds (fun c hc => hreads c (Command.mem_of_mem_upToClose hc)) _ _
  rw [perform, hparse]
  dsimp only
  split <;> exact hdone

/-- After a payload with a `close` the session has ended. -/
theorem isConnected_perform_of_close {payload : Bytes} {commands : List Command}
    (hparse : Command.parse payload = .ok commands) (hclose : .close ∈ commands) (s : Session)
    (shared : Shared σ) : (perform r payload s shared).session.isConnected = false := by
  rw [perform, hparse]
  dsimp only
  rw [r.routeAll_eq, Command.any_isClose_iff.2 hclose]
  dsimp only
  split <;> rfl

/-- The frame at the front of a stream that only reads leaves all that is shared as it was, and if the session
goes on, the rest of the stream only reads too. -/
theorem perform_of_onlyReads (h : r.registry.ReadsOnly) {stream payload rest : Bytes}
    (hstream : OnlyReads limit stream) (hfront : Frame.front limit stream = .complete payload rest)
    (s : Session) (shared : Shared σ) :
    (perform r payload s shared).shared = shared ∧
      ((perform r payload s shared).session.isConnected = true → OnlyReads limit rest) := by
  obtain ⟨batches, ending, ht, hreads⟩ := hstream
  have hcases := ht.cases_front
  rw [hfront] at hcases
  dsimp only at hcases
  cases hparse : Command.parse payload with
  | error e =>
    rw [perform_of_malformed hparse]
    exact ⟨rfl, nofun⟩
  | ok commands =>
    rw [hparse] at hcases
    rcases hcases with ⟨hclose, rfl, -⟩ | ⟨-, behind, rfl, hbehind⟩
    · refine ⟨shared_perform h hparse (hreads commands List.mem_cons_self) s shared, ?_⟩
      rw [isConnected_perform_of_close hparse hclose]
      exact nofun
    · obtain ⟨hfirst, hrest⟩ := List.forall_mem_cons.1 hreads
      exact ⟨shared_perform h hparse hfirst s shared, fun _ => ⟨behind, ending, hbehind, hrest⟩⟩

/-- A session with a stream before it that only reads, of which a part has arrived, leaves all that is shared
as it was. If it has not ended by then, what it has left of the stream only reads too. -/
theorem drain_of_onlyReads (h : r.registry.ReadsOnly) (future : Bytes) {s : Session}
    (hs : s.isConnected = true → OnlyReads limit (s.unread ++ future)) (shared : Shared σ) :
    let served := drain r limit s shared
    served.shared = shared ∧
      (served.session.isConnected = true → OnlyReads limit (served.session.unread ++ future)) := by
  -- each frame carried out leaves fewer bytes unread
  induction hn : s.unread.length using Nat.strongRecOn generalizing s with
  | ind n ih =>
    cases hconnected : s.isConnected with
    | false =>
      rw [drain_of_ended hconnected]
      exact ⟨rfl, hs⟩
    | true =>
      cases hfront : Frame.front limit s.unread with
      | incomplete =>
        rw [drain_of_incomplete hfront]
        exact ⟨rfl, hs⟩
      | fault e =>
        rw [drain_of_fault hconnected hfront]
        exact ⟨rfl, nofun⟩
      | complete payload rest =>
        have hlt := Frame.length_lt_of_front_complete hfront
        have hmore := Frame.front_append_of_complete hfront future
        obtain ⟨hshared, hrest⟩ :=
          perform_of_onlyReads h (hs hconnected) hmore { s with unread := rest } shared
        have hunread : (perform r payload { s with unread := rest } shared).session.unread = rest :=
          unread_perform payload
        rw [drain_of_complete hconnected hfront]
        dsimp only
        rw [hshared]
        exact ih rest.length (hn ▸ hlt) (by rwa [hunread]) (by rw [hunread])

omit [Simulation σ] in
/-- A session that was left has ended. -/
theorem isConnected_leave (s : Session) : s.leave.isConnected = false := by
  unfold leave
  cases hending : s.ending? <;> simp [isConnected, hending]

end Session

/-! ## What happens to a server -/

namespace Server

/-- What happens to a server on one of its connections. -/
inductive Event
  /-- The connection is made, and a session starts on it. -/
  | opened (connection : Nat)
  /-- Bytes arrive. -/
  | arrived (connection : Nat) (bytes : Bytes)
  /-- The peer leaves or keeps silent for too long. -/
  | left (connection : Nat)

/-- The connection on which something happens. -/
def Event.connection : Event → Nat
  | opened c | arrived c _ | left c => c

/-- What the server sends on the connection, and the server after that. -/
def handle (s : Server σ) : Event → Bytes × Server σ
  | .opened c => ([], s.accept c)
  | .arrived c bytes =>
    let (sent, _, s) := s.arrive c bytes
    (sent, s)
  | .left c =>
    match s.session? c with
    | none => ([], s)
    | some session => ([], s.keep c session.leave)

/-- What the server sends, each with its connection, when one thing happens after the other. -/
def handleAll (s : Server σ) : List Event → List (Nat × Bytes) × Server σ
  | [] => ([], s)
  | e :: rest =>
    let first := s.handle e
    let after := first.2.handleAll rest
    ((e.connection, first.1) :: after.1, after.2)

/-- The bytes that arrive on a connection before it is made anew. -/
def arriving (c : Nat) : List Event → Bytes
  | [] => []
  | .opened d :: rest => if d = c then [] else arriving c rest
  | .arrived d bytes :: rest => if d = c then bytes ++ arriving c rest else arriving c rest
  | .left _ :: rest => arriving c rest

/-- The streams of the sessions that start on a connection. -/
def streams (c : Nat) : List Event → List Bytes
  | [] => []
  | .opened d :: rest => if d = c then arriving c rest :: streams c rest else streams c rest
  | _ :: rest => streams c rest

/-! ## Sessions of a server -/

section sessions

omit [Simulation σ]

variable (s : Server σ) (session : Session)

/-- A connection has the session that was kept for it. -/
@[simp] theorem session?_keep_self (c : Nat) : (s.keep c session).session? c = some session :=
  List.lookup_cons_self

/-- Every other connection has the session it had. -/
theorem session?_keep_of_ne {c d : Nat} (h : d ≠ c) : (s.keep c session).session? d = s.session? d := by
  have hbeq : (d == c) = false := beq_false_of_ne h
  have hkept (entries : List (Nat × Session)) :
      (entries.filter fun entry => entry.1 != c).lookup d = entries.lookup d := by
    induction entries with
    | nil => rfl
    | cons entry rest ih =>
      obtain ⟨other, kept⟩ := entry
      by_cases hother : other = c
      · simp [hother, List.lookup_cons, hbeq, ih]
      · simp [hother, List.lookup_cons, ih]
  simp [keep, disconnect, session?, List.lookup_cons, hbeq, hkept]

@[simp] theorem config_keep (c : Nat) : (s.keep c session).config = s.config := rfl

@[simp] theorem router_keep (c : Nat) : (s.keep c session).router = s.router := rfl

end sessions

section equations

variable {s : Server σ} {c : Nat} {session : Session}

/-- Bytes that arrive at a session that goes on are served. -/
theorem handle_arrived (hsession : s.session? c = some session) (hconnected : session.isConnected = true)
    (bytes : Bytes) :
    s.handle (.arrived c bytes) =
      let served := session.receive s.router s.config.maxFrameSize bytes s.shared
      (served.replies.flatten, { s.keep c served.session with shared := served.shared }) := by
  simp [handle, arrive, hsession, hconnected]

/-- Bytes that arrive where no session goes on are lost. -/
theorem handle_arrived_of_ended
    (h : ¬ ∃ session, s.session? c = some session ∧ session.isConnected = true) (bytes : Bytes) :
    s.handle (.arrived c bytes) = ([], s) := by
  cases hsession : s.session? c with
  | none => simp [handle, arrive, hsession]
  | some session =>
    have hended : session.isConnected = false := by simpa [hsession] using h
    simp [handle, arrive, hsession, hended]

/-- A connection that leaves ends its session and is sent nothing. -/
theorem handle_left (hsession : s.session? c = some session) :
    s.handle (.left c) = ([], s.keep c session.leave) := by
  simp [handle, hsession]

/-- A connection without a session leaves without a trace. -/
theorem handle_left_of_none (hsession : s.session? c = none) : s.handle (.left c) = ([], s) := by
  simp [handle, hsession]

end equations

/-- All that becomes of a server when something happens on a connection is that it keeps a session for this
connection and that what is shared changes. -/
theorem handle_cases (s : Server σ) (e : Event) :
    (s.handle e).2 = s ∨
      ∃ session shared, (s.handle e).2 = { s.keep e.connection session with shared } := by
  cases e with
  | opened c => exact .inr ⟨.start, s.shared, rfl⟩
  | arrived c bytes =>
    by_cases h : ∃ session, s.session? c = some session ∧ session.isConnected = true
    · obtain ⟨session, hsession, hconnected⟩ := h
      rw [handle_arrived hsession hconnected]
      exact .inr ⟨_, _, rfl⟩
    · rw [handle_arrived_of_ended h]
      exact .inl rfl
  | left c =>
    cases hsession : s.session? c with
    | none =>
      rw [handle_left_of_none hsession]
      exact .inl rfl
    | some session =>
      rw [handle_left hsession]
      exact .inr ⟨session.leave, s.shared, rfl⟩

/-- What happens on a connection leaves the configuration. -/
theorem config_handle (s : Server σ) (e : Event) : (s.handle e).2.config = s.config := by
  rcases s.handle_cases e with h | ⟨session, shared, h⟩ <;> simp [h]

/-- What happens on a connection leaves the router. -/
theorem router_handle (s : Server σ) (e : Event) : (s.handle e).2.router = s.router := by
  rcases s.handle_cases e with h | ⟨session, shared, h⟩ <;> simp [h]

/-- What happens on one connection leaves the sessions of the others alone. -/
theorem session?_handle_of_ne (s : Server σ) {e : Event} {c : Nat} (h : c ≠ e.connection) :
    (s.handle e).2.session? c = s.session? c := by
  rcases s.handle_cases e with hsame | ⟨session, shared, hkept⟩
  · rw [hsame]
  · rw [hkept]
    exact s.session?_keep_of_ne session h

/-! ## Servers that agree but for one connection -/

/-- Two servers agree in all but the session of one connection. -/
structure AgreeOff (quiet : Nat) (s t : Server σ) : Prop where
  config : s.config = t.config
  router : s.router = t.router
  shared : s.shared = t.shared
  session : ∀ c, c ≠ quiet → s.session? c = t.session? c

namespace AgreeOff

variable {quiet : Nat} {s t : Server σ}

omit [Simulation σ] in
/-- Servers that agree still do when the same session is kept in both. -/
theorem keep (h : AgreeOff quiet s t) (c : Nat) (session : Session) :
    AgreeOff quiet (s.keep c session) (t.keep c session) where
  config := h.config
  router := h.router
  shared := h.shared
  session d hd := by
    by_cases hsame : d = c
    · simp [hsame]
    · rw [session?_keep_of_ne _ _ hsame, session?_keep_of_ne _ _ hsame, h.session d hd]

omit [Simulation σ] in
/-- Servers that agree still do when both come to share the same. -/
theorem share (h : AgreeOff quiet s t) (shared : Shared σ) :
    AgreeOff quiet { s with shared } { t with shared } :=
  ⟨h.config, h.router, rfl, h.session⟩

/-- What happens on another connection has the same consequences in both. -/
theorem handle (h : AgreeOff quiet s t) {e : Event} (he : e.connection ≠ quiet) :
    (s.handle e).1 = (t.handle e).1 ∧ AgreeOff quiet (s.handle e).2 (t.handle e).2 := by
  cases e with
  | opened c => exact ⟨rfl, h.keep c .start⟩
  | arrived c bytes =>
    have hsame : s.session? c = t.session? c := h.session c he
    by_cases hopen : ∃ session, t.session? c = some session ∧ session.isConnected = true
    · obtain ⟨session, hsession, hconnected⟩ := hopen
      rw [handle_arrived (hsame.trans hsession) hconnected, handle_arrived hsession hconnected, h.router,
        h.config, h.shared]
      exact ⟨rfl, (h.keep c _).share _⟩
    · rw [handle_arrived_of_ended (hsame ▸ hopen), handle_arrived_of_ended hopen]
      exact ⟨rfl, h⟩
  | left c =>
    have hsame : s.session? c = t.session? c := h.session c he
    cases hsession : t.session? c with
    | none =>
      rw [handle_left_of_none (hsame.trans hsession), handle_left_of_none hsession]
      exact ⟨rfl, h⟩
    | some session =>
      rw [handle_left (hsame.trans hsession), handle_left hsession]
      exact ⟨rfl, h.keep c session.leave⟩

/-- What happens on the connection itself makes no difference if it leaves all that is shared as it was. -/
theorem handle_quiet (h : AgreeOff quiet s t) {e : Event} (he : e.connection = quiet)
    (hshared : (s.handle e).2.shared = s.shared) : AgreeOff quiet (s.handle e).2 t where
  config := (s.config_handle e).trans h.config
  router := (s.router_handle e).trans h.router
  shared := hshared.trans h.shared
  session c hc := (s.session?_handle_of_ne (he ▸ hc)).trans (h.session c hc)

end AgreeOff

/-! ## Connections on which sessions only read -/

/-- What is still to come on a connection only reads: for the session that is open there, together with what it
has not read yet, and for every session that starts later. -/
structure Bystands (quiet : Nat) (s : Server σ) (events : List Event) : Prop where
  current : ∀ session, s.session? quiet = some session → session.isConnected = true →
    OnlyReads s.config.maxFrameSize (session.unread ++ arriving quiet events)
  later : ∀ stream ∈ streams quiet events, OnlyReads s.config.maxFrameSize stream

/-- What happens on another connection brings no bytes on this one. -/
theorem arriving_cons_of_ne {c : Nat} {e : Event} (h : e.connection ≠ c) (rest : List Event) :
    arriving c (e :: rest) = arriving c rest := by
  cases e <;> simp_all [arriving, Event.connection]

/-- What happens on another connection brings no streams on this one. -/
theorem streams_cons_of_ne {c : Nat} {e : Event} (h : e.connection ≠ c) (rest : List Event) :
    streams c (e :: rest) = streams c rest := by
  cases e <;> simp_all [streams, Event.connection]

namespace Bystands

variable {quiet : Nat} {s : Server σ} {e : Event} {rest : List Event}

/-- What happens elsewhere does not concern the connection. -/
theorem handle_of_ne (h : Bystands quiet s (e :: rest)) (he : e.connection ≠ quiet) :
    Bystands quiet (s.handle e).2 rest := by
  obtain ⟨hcurrent, hlater⟩ := h
  rw [arriving_cons_of_ne he] at hcurrent
  rw [streams_cons_of_ne he] at hlater
  constructor
  · rw [s.session?_handle_of_ne (Ne.symm he), s.config_handle e]
    exact hcurrent
  · rw [s.config_handle e]
    exact hlater

/-- What happens on the connection leaves all that is shared as it was. -/
theorem handle_of_eq (hreads : s.router.registry.ReadsOnly) (h : Bystands quiet s (e :: rest))
    (he : e.connection = quiet) :
    Bystands quiet (s.handle e).2 rest ∧ (s.handle e).2.shared = s.shared := by
  subst he
  cases e with
  | opened c =>
    have hlater : ∀ stream ∈ arriving c rest :: streams c rest, OnlyReads s.config.maxFrameSize stream := by
      simpa [streams, Event.connection] using h.later
    obtain ⟨hstream, hlater⟩ := List.forall_mem_cons.1 hlater
    refine ⟨⟨fun session hsession _ => ?_, hlater⟩, rfl⟩
    have hstart : session = .start := by
      simpa [handle, accept, Event.connection, eq_comm] using hsession
    subst hstart
    exact hstream
  | arrived c bytes =>
    by_cases hopen : ∃ session, s.session? c = some session ∧ session.isConnected = true
    · obtain ⟨session, hsession, hconnected⟩ := hopen
      have hstream : OnlyReads s.config.maxFrameSize ((session.extend bytes).unread ++ arriving c rest) := by
        simpa [arriving, Session.extend, Event.connection] using h.current session hsession hconnected
      obtain ⟨hshared, hbehind⟩ := Session.drain_of_onlyReads hreads _ (fun _ => hstream) s.shared
      rw [handle_arrived hsession hconnected]
      refine ⟨⟨fun kept hkept => ?_, h.later⟩, hshared⟩
      obtain rfl := Option.some.inj ((s.session?_keep_self _ c).symm.trans hkept)
      exact hbehind
    · rw [handle_arrived_of_ended hopen]
      refine ⟨⟨fun session hsession hconnected => ?_, h.later⟩, rfl⟩
      exact absurd ⟨session, hsession, hconnected⟩ hopen
  | left c =>
    cases hsession : s.session? c with
    | none =>
      rw [handle_left_of_none hsession]
      exact ⟨⟨h.current, h.later⟩, rfl⟩
    | some session =>
      rw [handle_left hsession]
      refine ⟨⟨fun kept hkept hconnected => ?_, h.later⟩, rfl⟩
      obtain rfl := Option.some.inj ((s.session?_keep_self _ c).symm.trans hkept)
      exact absurd hconnected (by simp [Session.isConnected_leave])

/-- A run with what happens on the connection and a run without it: the other connections are sent the same,
and the servers agree in the end if they agreed at the start. -/
theorem handleAll_agree {t : Server σ} {events : List Event} (hreads : s.router.registry.ReadsOnly)
    (h : Bystands quiet s events) (hagree : AgreeOff quiet s t) :
    (s.handleAll events).1.filter (fun sent => sent.1 ≠ quiet) =
        (t.handleAll (events.filter fun e => e.connection ≠ quiet)).1 ∧
      AgreeOff quiet (s.handleAll events).2
        (t.handleAll (events.filter fun e => e.connection ≠ quiet)).2 := by
  induction events generalizing s t with
  | nil => exact ⟨rfl, hagree⟩
  | cons e rest ih =>
    have hreads' : (s.handle e).2.router.registry.ReadsOnly := by rwa [s.router_handle e]
    by_cases he : e.connection = quiet
    · obtain ⟨hrest, hshared⟩ := h.handle_of_eq hreads he
      have hafter := ih hreads' hrest (hagree.handle_quiet he hshared)
      simpa [handleAll, he] using hafter
    · obtain ⟨hsent, hagree'⟩ := hagree.handle he
      have hafter := ih hreads' (h.handle_of_ne he) hagree'
      simpa [handleAll, he, hsent] using hafter

end Bystands

/-- Whatever happens on any number of connections in whatever order, and whatever the server has loaded: if
all sessions on one connection only read, the run without this connection is the same for everybody else. The
other connections are sent the same bytes in the same order, their sessions end in the same state, and so do
the simulation with its step counters and the files. -/
theorem handleAll_without_reader (config : Config) (directory : String) (shared : Shared World)
    (quiet : Nat) (events : List Event)
    (hquiet : ∀ stream ∈ streams quiet events, OnlyReads config.maxFrameSize stream) :
    let s : Server World := ⟨config, ⟨.standard, directory⟩, shared, []⟩
    let all := s.handleAll events
    let others := s.handleAll (events.filter fun e => e.connection ≠ quiet)
    all.1.filter (fun sent => sent.1 ≠ quiet) = others.1 ∧
      (∀ c, c ≠ quiet → all.2.session? c = others.2.session? c) ∧ all.2.shared = others.2.shared := by
  intro s all others
  have hbystands : Bystands quiet s events := ⟨nofun, hquiet⟩
  have hagree : AgreeOff quiet s s := ⟨rfl, rfl, rfl, fun _ _ => rfl⟩
  obtain ⟨hsent, hafter⟩ := hbystands.handleAll_agree Registry.readsOnly_standard hagree
  exact ⟨hsent, hafter.session, hafter.shared⟩

/-- While one session advances the simulation, another asks for the version and then sends a malformed frame.
The first is sent the same, and the step is run, whether the other is there or not. -/
theorem handleAll_without_reader_version :
    let w := World.empty ⟨0x3FD999999999999A⟩
    let s : Server World := ⟨.usual, ⟨.standard, "data"⟩,
      ⟨⟨w, 0, 0, .running⟩, { entries := [], workingDirectory := [] }⟩, []⟩
    let version : Bytes := [0, 0, 0, 6, 2, 0]
    let broken : Bytes := [0, 0, 0, 5, 1]
    let step : Bytes := [0, 0, 0, 14, 10, 2, 0, 0, 0, 0, 0, 0, 0, 0]
    let events : List Event :=
      [.opened 1, .opened 2, .arrived 1 version, .arrived 2 step, .arrived 1 broken, .left 2]
    let all := s.handleAll events
    let others := s.handleAll [.opened 2, .arrived 2 step, .left 2]
    (∀ stream ∈ streams 1 events, OnlyReads s.config.maxFrameSize stream) ∧
      all.1.filter (fun sent => sent.1 ≠ 1) = others.1 ∧
      (∀ c, c ≠ 1 → all.2.session? c = others.2.session? c) ∧ all.2.shared = others.2.shared ∧
      all.2.shared.bridge.completed = 1 := by
  intro w s version broken step events all others
  have hversion : Frame.payloadLength 6 s.config.maxFrameSize = .ok ([2, 0] : Bytes).length := rfl
  have hbroken : Frame.payloadLength 5 s.config.maxFrameSize = .ok ([1] : Bytes).length := rfl
  have htranscript : Transcript s.config.maxFrameSize (version ++ (broken ++ [])) [[.getVersion]] _ :=
    .frame hversion rfl (by simp) (.malformed hbroken rfl)
  have hstream : OnlyReads s.config.maxFrameSize (version ++ broken) :=
    ⟨_, _, htranscript, by simp [Command.isReadOnly]⟩
  have hreads : ∀ stream ∈ streams 1 events, OnlyReads s.config.maxFrameSize stream := by
    simpa [streams, arriving, events] using hstream
  obtain ⟨hsent, hsessions, hshared⟩ := handleAll_without_reader .usual "data" s.shared 1 events hreads
  exact ⟨hreads, hsent, hsessions, hshared, by decide +kernel⟩

end Server

end PedestrianControl
