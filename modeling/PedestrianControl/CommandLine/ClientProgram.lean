import PedestrianControl.Api.Person
import PedestrianControl.CommandLine.Arguments
import PedestrianControl.CommandLine.Display
import PedestrianControl.Controller

/-!
# The client program

The program connects to a server, sends the one command that its arguments name, and prints the response.
-/

namespace PedestrianControl.CommandLine

/-- What the client program can be asked to do. -/
inductive Task
  | version
  | step (target : Double)
  | getPerson (var : String) (id : String)
  | count
  | setSpeed (id : String) (speed : Double)
  | sendFile (path : String)
  | close
deriving Inhabited

/-- What a program leaves behind: its exit code and what it printed. -/
structure Outcome where
  code : Nat
  output : String
  errors : String
deriving DecidableEq, Inhabited, Repr

/-- A program's arguments asked for something it can do, or stopped it. -/
inductive Invocation
  | stopped (stop : Stop)
  | run (address : String) (task : Task)

namespace ClientProgram

/-- The arguments in front of the task. -/
def grammar : Grammar where
  options := [⟨"server", some 's', fun _ => true⟩]
  hasVersion := false
  operands := []
  leadsOn := true

/-- The arguments of a task with operands and perhaps an option. -/
def taskGrammar (options : List ValueOption) (operands : List (String → Bool)) : Grammar :=
  { options, hasVersion := false, operands, leadsOn := false }

/-- Any value. -/
def anything (_ : String) : Bool := true

/-- A value that is a double. -/
def isDouble (s : String) : Bool := (Decimal.double? s.toList).isSome

/-- A value that is a path. -/
def isPath (s : String) : Bool := !s.isEmpty

/-- The double that a value was checked to be. -/
def toDouble (s : String) : Double := (Decimal.double? s.toList).getD 0

/-- The task of the arguments from its name on. -/
def task : List String → Except Stop Task
  | [] => .error .usage
  | name :: args =>
    let bare (t : Task) : Except Stop Task := do
      let _ ← (taskGrammar [] []).sortOut args
      .ok t
    match name with
    | "version" => bare .version
    | "count" => bare .count
    | "close" => bare .close
    | "help" => .error .help
    | "step" => do
      let m ← (taskGrammar [⟨"target", some 't', isDouble⟩] []).sortOut args
      .ok (.step (((m.value? "target").map toDouble).getD 0))
    | "get-person" => do
      match (← (taskGrammar [] [anything, anything]).sortOut args).operands with
      | [var, id] => .ok (.getPerson var id)
      | _ => .error .usage
    | "set-speed" => do
      match (← (taskGrammar [] [anything, isDouble]).sortOut args).operands with
      | [id, speed] => .ok (.setSpeed id (toDouble speed))
      | _ => .error .usage
    | "send-file" => do
      match (← (taskGrammar [] [isPath]).sortOut args).operands with
      | [path] => .ok (.sendFile path)
      | _ => .error .usage
    | _ => .error .usage

/-- What the arguments ask for. -/
def invocation (args : List String) : Invocation :=
  match grammar.sortOut args with
  | .error stop => .stopped stop
  | .ok m =>
    match task m.further with
    | .error stop => .stopped stop
    | .ok t => .run ((m.value? "server").getD "127.0.0.1:9999") t

variable {σ : Type} [Simulation σ]

/-- A name in capitals; only the letters of ASCII have them. -/
def capitals (s : String) : String := s.map Char.toUpper

/-- Carries out a task over a connection and gives the lines to print. -/
def perform (files : FileStore) : Task → LinkM σ (List String)
  | .version => do
    let info ← Controller.getVersion
    return [s!"API version {info.api.toInt}: {info.identifier}"]
  | .step target => do
    let r ← Controller.request (.simStep target)
    return statusLine r :: r.subscriptions.map fun result =>
      s!"  {result.element} {bracketed (result.values.map detailedSubscribed)}"
  | .getPerson name id => do
    match PersonVariable.ofName? (capitals name) with
    | none => throw (.protocol (.unknownPersonVariable name))
    | some v => return [plain (← Controller.get .getPerson v.code id)]
  | .count => return [plain (← Controller.get .getPerson PersonVariable.count.code "")]
  | .setSpeed id speed => do
    let r ← Controller.request (.set .setPerson PersonVariable.speed.code id (.double speed))
    return [statusLine r]
  | .sendFile path => return [statusLine (← Controller.sendFile files path)]
  | .close => return [statusLine (← Controller.request .close)]

/-- Runs the program against a server, over a connection that ends with it. -/
def run (network : Network) (files : FileStore) (connection : Nat) (args : List String)
    (server : Server σ) : Outcome × Server σ :=
  match invocation args with
  | .stopped .usage => (⟨2, "", ""⟩, server)
  | .stopped _ => (⟨0, "", ""⟩, server)
  | .run address t =>
    match Controller.connect network connection server with
    | .error e => (⟨1, "", s!"Failed to connect to {address}: {e.message}\n"⟩, server)
    | .ok link =>
      match perform files t link with
      | .ok lines link =>
        (⟨0, String.join (lines.map (· ++ "\n")), ""⟩, link.server.disconnect connection)
      | .error e link => (⟨1, "", s!"Error: {e.message}\n"⟩, link.server.disconnect connection)

end ClientProgram

end PedestrianControl.CommandLine
