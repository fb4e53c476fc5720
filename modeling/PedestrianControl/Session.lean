import PedestrianControl.Router
import PedestrianControl.Wire.Frame
import PedestrianControl.Wire.Packet

/-!
# Sessions

A session serves one connection. It cuts the bytes that arrive into frames, carries out the commands of a
frame in order, and answers with one frame of responses. A frame is carried out only if all of it is well
formed. The session ends with a `close`, with a malformed frame, or with the connection.
-/

namespace PedestrianControl

variable {σ : Type} [Simulation σ]

/-- Commands carried out in order. -/
structure Executed (σ : Type) where
  responses : List Response
  closes : Bool
  subscriptions : Subscriptions
  shared : Shared σ

namespace Router

/-- Carries out commands in order, up to and including the first that closes. -/
def routeAll (r : Router σ) : List Command → Subscriptions → Shared σ → Executed σ
  | [], subs, shared => ⟨[], false, subs, shared⟩
  | c :: rest, subs, shared =>
    let routed := r.route c subs shared
    if routed.closes then ⟨[routed.response], true, routed.subscriptions, routed.shared⟩
    else
      let after := r.routeAll rest routed.subscriptions routed.shared
      { after with responses := routed.response :: after.responses }

end Router

/-- How a session ended. -/
inductive Ending
  /-- By a `close`, or because the peer left or kept silent. -/
  | closed
  /-- By an error that the peer or the connection is to blame for. -/
  | failed (e : Error)
deriving Inhabited

/-- A session between two arrivals of bytes. -/
structure Session where
  subscriptions : Subscriptions
  /-- Bytes that arrived and are not part of a whole frame yet. -/
  unread : Bytes
  /-- How the session ended, if it did. -/
  ending? : Option Ending
deriving Inhabited

/-- What a session did: replies, each the bytes of one frame, and where it stands. -/
structure Served (σ : Type) where
  replies : List Bytes
  session : Session
  shared : Shared σ

namespace Session

/-- A session that nothing has arrived for. -/
def start : Session := ⟨.empty, [], none⟩

/-- Whether the session has not ended. -/
def isConnected (s : Session) : Bool := s.ending?.isNone

/-- Carries out one payload. -/
def perform (r : Router σ) (payload : Bytes) (s : Session) (shared : Shared σ) : Served σ :=
  match Command.parse payload with
  | .error e => ⟨[], { s with ending? := some (.failed e) }, shared⟩
  | .ok commands =>
    let done := r.routeAll commands s.subscriptions shared
    let s := { s with subscriptions := done.subscriptions }
    match Response.encodeAll done.responses with
    | .error e => ⟨[], { s with ending? := some (.failed e) }, done.shared⟩
    | .ok reply =>
      ⟨[Frame.encode reply],
        { s with ending? := if done.closes then some .closed else none }, done.shared⟩

/-- Serves the whole frames among the bytes that have arrived, at most so many. -/
def serve (r : Router σ) (limit : Nat) : Nat → Session → Shared σ → Served σ
  | 0, s, shared => ⟨[], s, shared⟩
  | frames + 1, s, shared =>
    if s.isConnected then
      match Frame.front limit s.unread with
      | .incomplete => ⟨[], s, shared⟩
      | .fault e => ⟨[], { s with ending? := some (.failed e) }, shared⟩
      | .complete payload rest =>
        let done := perform r payload { s with unread := rest } shared
        let after := serve r limit frames done.session done.shared
        { after with replies := done.replies ++ after.replies }
    else ⟨[], s, shared⟩

/-- Serves what can be served when more bytes arrive. Every frame takes a byte, so there are no more frames
than bytes. -/
def receive (r : Router σ) (limit : Nat) (bytes : Bytes) (s : Session) (shared : Shared σ) :
    Served σ :=
  let unread := s.unread ++ bytes
  serve r limit unread.length { s with unread } shared

/-- The peer has left, or kept silent for too long. That is no error, also inside a frame. -/
def leave (s : Session) : Session :=
  match s.ending? with
  | some _ => s
  | none => { s with ending? := some .closed }

/-- A whole session: all these bytes arrive, and then the peer leaves or keeps silent. -/
def run (r : Router σ) (limit : Nat) (bytes : Bytes) (shared : Shared σ) : Served σ :=
  let served := receive r limit bytes start shared
  { served with session := served.session.leave }

end Session

end PedestrianControl
