import PedestrianControl.Api.Standard
import PedestrianControl.CommandLine.Arguments
import PedestrianControl.Config.File
import PedestrianControl.Server
import PedestrianControl.World.Basic

/-!
# The server program

From its arguments the program makes a configuration, from the configuration a world, and then it listens. Every
step is logged; a mistake in the arguments, or an error on the way, ends it with an exit code.
-/

namespace PedestrianControl.CommandLine

/-- How important a line of the log is. -/
inductive Level
  | info
  | error
deriving DecidableEq, Inhabited, Repr

/-- The word for a level. -/
def Level.name : Level → String
  | info => "INFO"
  | error => "ERROR"

/-- A line of the log. -/
structure LogLine where
  level : Level
  text : String
deriving DecidableEq, Inhabited, Repr

/-- How far the server program came. -/
inductive Started
  /-- The arguments are no use, or ask for a text only. -/
  | stopped (stop : Stop)
  | failed (log : List LogLine)
  | listening (log : List LogLine) (server : Server World)

namespace ServerProgram

/-- A value that is a path. -/
def isPath (s : String) : Bool := !s.isEmpty

/-- A value that is a number of 64 bits. -/
def isWord (s : String) : Bool := (Decimal.word64? s.toList).isSome

/-- A value that is a double. -/
def isDouble (s : String) : Bool := (Decimal.double? s.toList).isSome

/-- The arguments of the program. -/
def grammar : Grammar where
  options := [
    ⟨"config", some 'c', isPath⟩,
    ⟨"listen", some 'l', fun _ => true⟩,
    ⟨"max-connections", some 'm', isWord⟩,
    ⟨"scenario", some 's', isPath⟩,
    ⟨"step-length", none, isDouble⟩,
    ⟨"step-interval-ms", none, isWord⟩,
    ⟨"data-dir", some 'd', isPath⟩]
  hasVersion := true
  operands := []
  leadsOn := false

/-- The settings with those changed that arguments give. -/
def override (m : Matched) (c : Config) : Config :=
  let number (long : String) (usual : Nat) : Nat :=
    ((m.value? long).bind fun s => Decimal.word64? s.toList).getD usual
  { c with
    listenAddress := (m.value? "listen").getD c.listenAddress
    maxConnections := number "max-connections" c.maxConnections
    scenario := (m.value? "scenario").or c.scenario
    stepLength :=
      ((m.value? "step-length").bind fun s => Decimal.double? s.toList).getD c.stepLength
    stepInterval := number "step-interval-ms" c.stepInterval
    dataDirectory := (m.value? "data-dir").getD c.dataDirectory }

/-- The configuration: that of the file, if there is one, with the other arguments applied. Both are
checked. -/
def config (read : Toml.Reader) (files : FileStore) (m : Matched) : Except Error Config := do
  let base ← match m.value? "config" with
    | some path => Config.ofFile read files path
    | none => .ok .usual
  let c := override m base
  c.validate
  .ok c

/-- The world to start with, and what the log says of it. -/
def world (files : FileStore) (c : Config) : Except Error (World × String) :=
  match c.scenario with
  | none => .ok (.empty c.stepLength, "No scenario given, starting with an empty world")
  | some path =>
    match files.readText path with
    | .error e => .error (.io e)
    | .ok text => do
      let name := Router.scenarioName path
      let w ← (World.empty c.stepLength).load name text
      .ok (w, s!"Loaded scenario {name} with {w.crowd.size} pedestrian(s)")

/-- The line of the log once the server listens. -/
def listeningLine (c : Config) : LogLine := ⟨.info, s!"Listening ({c.maxConnections} worker(s))"⟩

/-- Starts the server with a driver that is attached at once. -/
def start (read : Toml.Reader) (files : FileStore) (m : Matched) : Started :=
  match config read files m with
  | .error e => .failed [⟨.error, s!"Invalid configuration: {e.message}"⟩]
  | .ok c =>
    let log : List LogLine := [
      ⟨.info, s!"simtraci Server v{programVersion}"⟩,
      ⟨.info, s!"Listen address: {c.listenAddress}"⟩,
      ⟨.info, s!"Data directory: {c.dataDirectory}"⟩]
    match world files c with
    | .error e => .failed (log ++ [⟨.error, s!"Failed to load scenario: {e.message}"⟩])
    | .ok (w, line) =>
      let log := log ++ [⟨.info, line⟩]
      match (Bridge.fresh w).attach with
      | .error e =>
        .failed (log ++ [⟨.error, s!"Failed to start simulation driver: {e.message}"⟩])
      | .ok bridge =>
        match Server.bind c ⟨.standard, c.dataDirectory⟩ ⟨bridge, files⟩ with
        | .error e => .failed (log ++ [⟨.error, s!"Failed to bind: {e.message}"⟩])
        | .ok server => .listening (log ++ [listeningLine c]) server

/-- Runs the program up to the point where it listens. -/
def run (read : Toml.Reader) (files : FileStore) (args : List String) : Started :=
  match grammar.sortOut args with
  | .error stop => .stopped stop
  | .ok m => start read files m

end ServerProgram

end PedestrianControl.CommandLine
