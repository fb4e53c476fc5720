import PedestrianControl.Config
import PedestrianControl.Network
import PedestrianControl.Session

/-!
# Servers

A server keeps one session for each connection; all of them share the simulation and the files. Requests are
served one after the other, each to its end. A connection beyond the number served at a time only waits, and
starts its session when another ends.
-/

namespace PedestrianControl

/-- A server with its connections, each known by a number. -/
structure Server (σ : Type) where
  config : Config
  router : Router σ
  shared : Shared σ
  sessions : List (Nat × Session)

namespace Server

variable {σ : Type} [Simulation σ]

omit [Simulation σ] in
/-- A server that listens, or the error for which it cannot. -/
def bind (config : Config) (router : Router σ) (shared : Shared σ) : Except Error (Server σ) := do
  config.validate
  match ListenAddress.check config.listenAddress with
  | .ok _ => .ok ⟨config, router, shared, []⟩
  | .error e => .error (.io e)

omit [Simulation σ] in
/-- The session of a connection. -/
def session? (s : Server σ) (connection : Nat) : Option Session := s.sessions.lookup connection

omit [Simulation σ] in
/-- The server without a connection. -/
def disconnect (s : Server σ) (connection : Nat) : Server σ :=
  { s with sessions := s.sessions.filter fun entry => entry.1 != connection }

omit [Simulation σ] in
/-- The server with the session of a connection, in place of an earlier one. -/
def keep (s : Server σ) (connection : Nat) (session : Session) : Server σ :=
  let s := s.disconnect connection
  { s with sessions := (connection, session) :: s.sessions }

omit [Simulation σ] in
/-- The server with a new connection. -/
def accept (s : Server σ) (connection : Nat) : Server σ := s.keep connection .start

/-- Bytes arrive on a connection. Gives the bytes sent back, and whether the connection is still open; on one
that is not open nothing arrives. -/
def arrive (s : Server σ) (connection : Nat) (bytes : Bytes) : Bytes × Bool × Server σ :=
  match s.session? connection with
  | none => ([], false, s)
  | some session =>
    if session.isConnected then
      let served := session.receive s.router s.config.maxFrameSize bytes s.shared
      (served.replies.flatten, served.session.isConnected,
        { s.keep connection served.session with shared := served.shared })
    else ([], false, s)

end Server

end PedestrianControl
