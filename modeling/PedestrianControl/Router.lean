import PedestrianControl.Bridge.Lockstep
import PedestrianControl.Files.Store
import PedestrianControl.Subscription.Registry

/-!
# Routing commands

The router carries out one command after the other. Gets and sets go to the registry, steps to the bridge,
scenarios come from files or are stored as files, and subscriptions belong to the session that sent them.
-/

namespace PedestrianControl

open Text (hexByte)

/-! ## How many steps a time is away -/

/-- The most steps that one request may ask for. -/
def stepLimit : Nat := 4294967295

/-- The steps that lead from `now` to a target time: at least one, and as many as it takes to reach the target
up to a billionth of a step. None if the target is no time or more than `stepLimit` steps away. -/
def stepsUntil (target now stepLength : Double) : Option Nat :=
  if target.isNaN then none
  else if target.atMost now || !stepLength.isPositive then some 1
  else
    let steps := (((target - now) / stepLength).toFloat - 1e-9).ceil
    let steps := if steps.isNaN || steps < 1.0 then 1.0 else steps
    if steps ≤ stepLimit.toFloat then some steps.toUInt64.toNat else none

/-! ## The router -/

/-- What carries out commands beside the state: the surfaces, and the directory for files sent. -/
structure Router (σ : Type) where
  registry : Registry σ
  dataDirectory : String

/-- What all sessions share. -/
structure Shared (σ : Type) where
  bridge : Bridge σ
  files : FileStore

/-- A command carried out. -/
structure Routed (σ : Type) where
  response : Response
  /-- The session ends after this response. -/
  closes : Bool
  subscriptions : Subscriptions
  shared : Shared σ

/-- The version of the program. -/
def programVersion : String := "0.1.0"

/-- The name under which the server answers the question for its version. -/
def versionIdentifier : String :=
  s!"simtraci {programVersion}. Supports a subset of commands based on TraCI version {apiVersion.toInt}"

namespace Router

variable {σ : Type} [Simulation σ]

omit [Simulation σ] in
/-- Applies a state change to the shared state. -/
def onState {α : Type} (shared : Shared σ) (f : σ → α × σ) : α × Shared σ :=
  let (a, bridge) := shared.bridge.withState f
  (a, { shared with bridge })

/-- Loads a scenario into the simulation; a faulty one changes nothing. -/
def loadScenario (name text : String) (shared : Shared σ) : Except Error Unit × Shared σ :=
  onState shared fun state =>
    match Simulation.loadScenario name text state with
    | .ok state' => (.ok (), state')
    | .error e => (.error e, state)

/-- The name of the scenario in the file at a path. -/
def scenarioName (path : String) : String := (Path.stem? path).getD "scenario"

/-- Loads the scenario file at a path. -/
def loadFile (path : String) (shared : Shared σ) : Except Error Unit × Shared σ :=
  match shared.files.readText path with
  | .error e => (.error (.scenario (.cannotRead path e)), shared)
  | .ok text => loadScenario (scenarioName path) text shared

/-- Stores a file under its last component in the data directory and loads it as a scenario. -/
def storeAndLoad (r : Router σ) (name content : String) (shared : Shared σ) :
    Except Error Unit × Shared σ :=
  match Path.fileName? name with
  | none => (.error (.scenario (.invalidFileName name)), shared)
  | some fileName =>
    let path := Path.join r.dataDirectory fileName
    let store : FileAction PUnit := do
      FileStore.ensureDirectories r.dataDirectory
      FileStore.write path (Utf8.encode content)
    match store shared.files with
    | .error e files => (.error (.io e), { shared with files })
    | .ok _ files => loadScenario (scenarioName path) content { shared with files }

/-- The answer to a command that either works or fails with an error. -/
def acknowledge (o : Opcode) : Except Error Unit → Response
  | .ok _ => .ok o
  | .error e => .error o e.message

/-- Advances to a time and evaluates the session's subscriptions there. -/
def simStep (r : Router σ) (target : Double) (subs : Subscriptions) (shared : Shared σ) :
    Response × Subscriptions × Shared σ :=
  let now := Simulation.time shared.bridge.state
  match stepsUntil target now (Simulation.stepLength shared.bridge.state) with
  | none =>
    (.error .simStep s!"target time {target.text} is out of reach from {now.text}", subs, shared)
  | some steps =>
    let evaluate (state : σ) : (List SubscriptionResult × Subscriptions) × σ :=
      let (found, kept, state) := subs.evaluate r.registry state
      ((found, kept), state)
    match shared.bridge.advance steps evaluate with
    | (.ok (found, kept), bridge) => (.simStep found, kept, { shared with bridge })
    | (.error e, bridge) => (.error .simStep e.message, subs, { shared with bridge })

omit [Simulation σ] in
/-- Registers a subscription and answers with its values now; without variables, removes it. -/
def subscribe (r : Router σ) (s : Subscription) (subs : Subscriptions) (shared : Shared σ) :
    Response × Subscriptions × Shared σ :=
  match r.registry.surface? s.opcode with
  | none =>
    (.notImplemented s.opcode s!"no API surface handles subscription {hexByte s.opcode.code}",
      subs, shared)
  | some surface =>
    if s.vars.isEmpty then
      match subs.remove s.opcode s.element with
      | (true, subs) => (.ok s.opcode, subs, shared)
      | (false, subs) => (.error s.opcode s!"no subscription for '{s.element}'", subs, shared)
    else
      let (result, shared) := onState shared (surface.subscriptionResult s.element s.vars)
      (.withBody s.opcode (.subscription result), (subs.register s).2, shared)

omit [Simulation σ] in
/-- An answer that leaves the session's subscriptions alone. -/
def reply (subs : Subscriptions) (answer : Response × Shared σ) : Routed σ :=
  ⟨answer.1, false, subs, answer.2⟩

/-- Carries out one command of a session. -/
def route (r : Router σ) (c : Command) (subs : Subscriptions) (shared : Shared σ) : Routed σ :=
  match c with
  | .getVersion => reply subs (.version versionIdentifier, shared)
  | .close => ⟨.ok .close, true, subs, shared⟩
  | .simStep target =>
    let (response, subs, shared) := r.simStep target subs shared
    ⟨response, false, subs, shared⟩
  | .load [] => reply subs (.error .load "LOAD expects a scenario path", shared)
  | .load (path :: _) =>
    let (outcome, shared) := loadFile path shared
    reply subs (acknowledge .load outcome, shared)
  | .sendFile name content =>
    let (outcome, shared) := r.storeAndLoad name content shared
    reply subs (acknowledge .sendFile outcome, shared)
  | .subscribe s =>
    let (response, subs, shared) := r.subscribe s subs shared
    ⟨response, false, subs, shared⟩
  | c => reply subs (onState shared (r.registry.dispatch c))

end Router

end PedestrianControl
