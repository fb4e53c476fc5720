import PedestrianControl.Proofs.Bridge.Accounting
import PedestrianControl.Proofs.Routing.Evolution
import PedestrianControl.Proofs.Server.Influence

/-!
# How the state of a server evolves

Frames arrive on the connections of a server, and those of several sessions may be carried out at the same time, one
part of a command after the other. Meanwhile a driver comes, runs steps, is told to stop and leaves, and others change
the files that are read (`Server.Happening`). In all that the state evolves as its registry lets it
(`Server.evolves_undergoAll`).
-/

namespace PedestrianControl

variable {σ : Type} [Simulation σ]

/-! ## Sessions -/

namespace Session

variable (r : Router σ)

/-- Carrying out a payload makes the state evolve. -/
theorem evolves_perform (payload : Bytes) (s : Session) (shared : Shared σ) :
    r.registry.Evolves shared.bridge.state (perform r payload s shared).shared.bridge.state := by
  rw [perform]
  cases Command.parse payload with
  | error e => exact .refl
  | ok commands =>
    have heach := r.evolves_routeEach s.subscriptions shared (Command.upToClose commands)
    dsimp only
    rw [r.routeAll_eq]
    dsimp only
    split <;> exact heach

/-- Serving all whole frames makes the state evolve. -/
theorem evolves_serve (limit frames : Nat) (s : Session) (shared : Shared σ) :
    r.registry.Evolves shared.bridge.state (serve r limit frames s shared).shared.bridge.state := by
  induction frames generalizing s shared with
  | zero => exact .refl
  | succ frames ih =>
    rw [serve]
    split
    · split
      · exact .refl
      · exact .refl
      · exact (evolves_perform r _ _ shared).trans (ih _ _)
    · exact .refl

end Session

/-! ## Frames carried out at the same time -/

namespace Router

/-- What a command does with the state in one section. Between two sections of one command others may have theirs. -/
inductive Part
  /-- A get or set is carried out. -/
  | dispatch (c : Command)
  /-- A new subscription is answered. -/
  | watch (s : Subscription)
  /-- A scenario that has been read is loaded. -/
  | load (name text : String)
  /-- Steps are requested. -/
  | request (steps : Nat)
  /-- Once these have been run, the subscriptions are evaluated. -/
  | evaluate (subs : Subscriptions)

/-- What sessions share after a part of a command. -/
def carryOut (r : Router σ) (shared : Shared σ) : Part → Shared σ
  | .dispatch c => (onState shared (r.registry.dispatch c)).2
  | .watch s => (r.subscribe s .empty shared).2.2
  | .load name text => (loadScenario name text shared).2
  | .request steps =>
    match shared.bridge.request steps with
    | .ok (_, bridge) => { shared with bridge }
    | .error _ => shared
  | .evaluate subs => (onState shared fun state => ((), (subs.evaluate r.registry state).2.2)).2

/-- A part of a command makes the state evolve. -/
theorem evolves_carryOut (r : Router σ) (shared : Shared σ) (part : Part) :
    r.registry.Evolves shared.bridge.state (r.carryOut shared part).bridge.state := by
  cases part with
  | dispatch c => exact (r.registry.calls_dispatch c _).evolves
  | watch s => exact r.evolves_subscribe .empty shared s
  | load name text => exact r.evolves_loadScenario shared name text
  | request steps =>
    rw [carryOut]
    cases hrequest : shared.bridge.request steps with
    | error e => exact .refl
    | ok accepted =>
      obtain ⟨-, -, hbridge⟩ := Bridge.request_ok_cases hrequest
      dsimp only
      rw [hbridge]
      exact .refl
  | evaluate subs => exact subs.evolves_evaluate r.registry _

end Router

/-! ## Drivers -/

namespace Bridge

/-- What a driver, or whoever handles it, does in one section. -/
inductive DriverMove
  | attach
  | stop
  | step
  | interval
  | leave

/-- The bridge after a move. One that is refused, or has nothing to do, changes nothing. -/
def move (b : Bridge σ) : DriverMove → Bridge σ
  | .attach =>
    match b.attach with
    | .ok attached => attached
    | .error _ => b
  | .stop => b.requestStop
  | .step => b.driverStep?.getD b
  | .interval => b.intervalEnds
  | .leave => b.driverLeaves?.getD b

/-- A move leaves the state alone or runs one step. -/
theorem state_move_cases (b : Bridge σ) (m : DriverMove) :
    (b.move m).state = b.state ∨ (b.move m).state = Simulation.step b.state := by
  cases m with
  | attach =>
    rw [move]
    cases hattach : b.attach with
    | error e => exact .inl rfl
    | ok attached =>
      obtain ⟨-, rfl⟩ := attach_ok_cases hattach
      exact .inl rfl
  | stop =>
    rw [move, requestStop_eq]
    exact .inl rfl
  | step =>
    rw [move]
    cases hstep : b.driverStep? with
    | none => exact .inl rfl
    | some stepped =>
      obtain ⟨-, -, rfl⟩ := driverStep?_cases hstep
      exact .inr rfl
  | interval =>
    rw [move, intervalEnds]
    split <;> exact .inl rfl
  | leave =>
    rw [move]
    cases hleave : b.driverLeaves? with
    | none => exact .inl rfl
    | some left =>
      obtain ⟨-, rfl⟩ := driverLeaves?_cases hleave
      exact .inl rfl

/-- A section of a driver makes the state evolve. -/
theorem evolves_move (r : Registry σ) (b : Bridge σ) (m : DriverMove) :
    r.Evolves b.state (b.move m).state := by
  rcases b.state_move_cases m with hstate | hstate
  · rw [hstate]
    exact .refl
  · rw [hstate]
    exact .single .stepped

end Bridge

/-! ## Servers -/

namespace Server

/-- What can happen to a server. -/
inductive Happening
  /-- Something happens on a connection, and all frames that arrive are carried out at once. -/
  | connection (e : Event)
  /-- A part is carried out of a command in a frame that takes its time. -/
  | part (p : Router.Part)
  /-- A driver has a section on the bridge. -/
  | driver (m : Bridge.DriverMove)
  /-- The files become others than the server knew. -/
  | files (files : FileStore)

/-- The server after something has happened. -/
def undergo (s : Server σ) : Happening → Server σ
  | .connection e => (s.handle e).2
  | .part p => { s with shared := s.router.carryOut s.shared p }
  | .driver m => { s with shared := { s.shared with bridge := s.shared.bridge.move m } }
  | .files files => { s with shared := { s.shared with files } }

/-- The server after one thing has happened after the other. -/
def undergoAll (s : Server σ) (happenings : List Happening) : Server σ := happenings.foldl undergo s

variable (s : Server σ)

/-- What happens on a connection makes the state evolve. -/
theorem evolves_handle (e : Event) :
    s.router.registry.Evolves s.shared.bridge.state (s.handle e).2.shared.bridge.state := by
  cases e with
  | opened c => exact .refl
  | arrived c bytes =>
    by_cases h : ∃ session, s.session? c = some session ∧ session.isConnected = true
    · obtain ⟨session, hsession, hconnected⟩ := h
      rw [handle_arrived hsession hconnected]
      exact Session.evolves_serve s.router _ _ _ s.shared
    · rw [handle_arrived_of_ended h]
      exact .refl
  | left c =>
    cases hsession : s.session? c with
    | none =>
      rw [handle_left_of_none hsession]
      exact .refl
    | some session =>
      rw [handle_left hsession]
      exact .refl

/-- A server's router is the same for good. -/
theorem router_undergo (h : Happening) : (s.undergo h).router = s.router := by
  cases h with
  | connection e => exact s.router_handle e
  | part p => rfl
  | driver m => rfl
  | files files => rfl

/-- Whatever happens to a server makes the state evolve. -/
theorem evolves_undergo (h : Happening) :
    s.router.registry.Evolves s.shared.bridge.state (s.undergo h).shared.bridge.state := by
  cases h with
  | connection e => exact s.evolves_handle e
  | part p => exact s.router.evolves_carryOut s.shared p
  | driver m => exact Bridge.evolves_move s.router.registry s.shared.bridge m
  | files files => exact .refl

/-- Whatever happens to a server, the state evolves. -/
theorem evolves_undergoAll (happenings : List Happening) :
    s.router.registry.Evolves s.shared.bridge.state (s.undergoAll happenings).shared.bridge.state := by
  induction happenings generalizing s with
  | nil => exact .refl
  | cons h rest ih =>
    have hrest := ih (s.undergo h)
    rw [s.router_undergo h] at hrest
    exact (s.evolves_undergo h).trans hrest

end Server

end PedestrianControl
