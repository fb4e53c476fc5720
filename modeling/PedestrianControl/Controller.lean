import PedestrianControl.Server

/-!
# Controllers

The other side of a connection: a controller sends commands and reads the responses. Each request sends one
frame and waits for one frame.
-/

namespace PedestrianControl

/-- A controller's side of a connection: bytes received and not read yet. -/
structure Controller where
  connection : Nat
  received : Bytes
deriving Inhabited

/-- A server and a controller connected to it. -/
structure Link (σ : Type) where
  controller : Controller
  server : Server σ

/-- Works over a connection and may fail with an error. -/
abbrev LinkM (σ : Type) := EStateM Error (Link σ)

namespace Controller

variable {σ : Type} [Simulation σ]

omit [Simulation σ] in
/-- Connects to a server that listens. -/
def connect (network : Network) (connection : Nat) (server : Server σ) : Except Error (Link σ) :=
  match network.connect with
  | .ok _ => .ok ⟨⟨connection, []⟩, server.accept connection⟩
  | .error e => .error (.io e)

/-- Sends a frame with a payload. -/
def transmit (payload : Bytes) : LinkM σ PUnit := fun link =>
  let (sent, _, server) := link.server.arrive link.controller.connection (Frame.encode payload)
  .ok ⟨⟩
    { controller := { link.controller with received := link.controller.received ++ sent }, server }

omit [Simulation σ] in
/-- The payload of the next frame received. A frame that does not come means that the server has closed the
connection; of a frame with a bad length only the length is taken. -/
def nextFrame : LinkM σ Bytes := fun link =>
  match Frame.front Frame.defaultLimit link.controller.received with
  | .incomplete => .error .connectionClosed link
  | .fault e =>
    .error e
      { link with
        controller :=
          { link.controller with received := link.controller.received.drop Frame.lengthField } }
  | .complete payload rest =>
    .ok payload { link with controller := { link.controller with received := rest } }

/-- Sends commands and gives the responses. -/
def send (commands : List Command) : LinkM σ (List Response) := do
  match Command.encodeAll commands with
  | .error e => throw e
  | .ok payload =>
    transmit payload
    match Response.parse (← nextFrame) with
    | .error e => throw e
    | .ok responses => return responses

/-- Sends one command and gives its response. -/
def request (c : Command) : LinkM σ Response := do
  match ← send [c] with
  | r :: _ => return r
  | [] => throw (.protocol .emptyReply)

/-- The error that a response without the expected body stands for. -/
def failure (r : Response) : Error :=
  .protocol (.requestFailed r.status.opcode.code r.status.result r.status.description)

/-- Asks for the version. -/
def getVersion : LinkM σ VersionInfo := do
  let r ← request .getVersion
  match r.body with
  | .version info => return info
  | _ => throw (failure r)

/-- Asks for a value. -/
def get (o : Opcode) (var : UInt8) (element : String) : LinkM σ TypedValue := do
  let r ← request (.get o var element)
  match r.value? with
  | some v => return v
  | none => throw (failure r)

/-- Subscribes to variables of an element for all times. -/
def subscribe (o : Opcode) (element : String) (vars : List UInt8) : LinkM σ Response :=
  request (.subscribe ⟨o, Subscription.unbounded, Subscription.unbounded, element, vars⟩)

/-- Sends a file of the controller's own as a scenario, under its last component. -/
def sendFile (files : FileStore) (path : String) : LinkM σ Response := do
  match files.readText path with
  | .error e => throw (.io e)
  | .ok content =>
    match Path.fileName? path with
    | none => throw (.protocol (.invalidFileName path))
    | some name => request (.sendFile name content)

end Controller

end PedestrianControl
