import PedestrianControl.Proofs.Api.Failure
import PedestrianControl.Proofs.Bridge.Lockstep
import PedestrianControl.Proofs.Routing.Answers

/-!
# Commands that fail

A command that fails leaves no trace in the simulation, whatever it was: the bridge, which is the state of
the simulation with its step counters and its driver, and the session's subscriptions are the same as before,
and the description says what went wrong (`Response.FailsClean`). Each path of the router has its own way of
failing and its own lemma. Together they give `Router.failsClean_route`, for every registry whose handlers
fail in this way too.

The stored files are not part of this. A file that was sent stays stored although it is no scenario.
-/

namespace PedestrianControl

variable {σ : Type}

/-- Every error has a wording. -/
theorem Error.message_ne_empty (e : Error) : e.message ≠ "" := by
  cases e with
  | connectionClosed | driverStopped => decide
  | underflow needed available =>
    refine Text.append_ne_empty_left (Text.append_ne_empty_left ?_ _) _
    exact Text.append_ne_empty_right _ (by decide)
  | _ => exact Text.append_ne_empty_left (by decide) _

/-! ## Responses to what failed -/

namespace Response

/-- A response that, unless it tells of success, says what went wrong and follows no change. -/
def FailsClean {α : Type} (r : Response) (before after : α) : Prop :=
  r.status.result ≠ .ok → r.status.description ≠ "" ∧ after = before

variable {α β : Type} {r : Response} {before after : α}

/-- A response of success owes no reason. -/
theorem failsClean_of_ok (h : r.status.result = .ok) : r.FailsClean before after :=
  fun hfail => absurd h hfail

/-- With a reason given and nothing changed, a failure is clean. -/
theorem failsClean_self (h : r.status.description ≠ "") : r.FailsClean before before :=
  fun _ => ⟨h, rfl⟩

/-- What is computed from the same things is the same. -/
theorem FailsClean.map (h : r.FailsClean before after) (f : α → β) :
    r.FailsClean (f before) (f after) := by
  intro hfail
  obtain ⟨hdescription, rfl⟩ := h hfail
  exact ⟨hdescription, rfl⟩

end Response

/-! ## Gets and sets -/

namespace Registry

variable {registry : Registry σ}

/-- A get that fails says why and changes nothing. -/
theorem failsClean_dispatch_get (h : registry.FailsClean) {o : Opcode} (ho : o.category = .get)
    (var : UInt8) (element : String) (state : σ) :
    (registry.dispatch (.get o var element) state).1.FailsClean state
      (registry.dispatch (.get o var element) state).2 := by
  rw [dispatch, Command.opcode]
  cases hs : registry.surface? o with
  | none =>
    exact Response.failsClean_self (Text.append_ne_empty_right _ (Text.hexByte_ne_empty o.code))
  | some s =>
    show (s.answerGet o var element state).1.FailsClean state
      (s.answerGet o var element state).2
    have hread := (h.surface hs).call_readsOnly ho ⟨var, element, none⟩ state
    rw [Surface.answerGet_apply]
    rcases hcall : s.call o ⟨var, element, none⟩ state with ⟨e | _ | v, after⟩
    · obtain ⟨hmessage, rfl⟩ := (h.surface hs).call hcall
      exact Response.failsClean_self hmessage
    · rw [hcall] at hread
      obtain rfl : after = state := hread
      exact Response.failsClean_self (Surface.message_noValue_ne_empty var)
    · exact Response.failsClean_of_ok rfl

/-- A set that fails says why and changes nothing. -/
theorem failsClean_dispatch_set (h : registry.FailsClean) (o : Opcode) (var : UInt8)
    (element : String) (value : TypedValue) (state : σ) :
    (registry.dispatch (.set o var element value) state).1.FailsClean state
      (registry.dispatch (.set o var element value) state).2 := by
  rw [dispatch, Command.opcode]
  cases hs : registry.surface? o with
  | none =>
    exact Response.failsClean_self (Text.append_ne_empty_right _ (Text.hexByte_ne_empty o.code))
  | some s =>
    show (s.answerSet o var element value state).1.FailsClean state
      (s.answerSet o var element value state).2
    rw [Surface.answerSet_apply]
    rcases hcall : s.call o ⟨var, element, some value⟩ state with ⟨e | v, after⟩
    · obtain ⟨hmessage, rfl⟩ := (h.surface hs).call hcall
      exact Response.failsClean_self hmessage
    · exact Response.failsClean_of_ok rfl

end Registry

/-! ## Subscriptions -/

/-- Where there is no subscription to remove, removing changes nothing. -/
theorem Subscriptions.eq_of_remove {subs kept : Subscriptions} {o : Opcode} {element : String}
    (h : subs.remove o element = (false, kept)) : kept = subs := by
  obtain ⟨hnone, rfl⟩ := Prod.mk.inj h
  have hkeep : subs.entries.filter (fun s => !hasKey o element s) = subs.entries :=
    List.filter_eq_self.2 fun s hs => by
      rw [List.any_eq_false] at hnone
      simpa using hnone s hs
  rw [hkeep]

namespace Router

variable (r : Router σ) (subs : Subscriptions) (shared : Shared σ)

/-- A subscription that is refused says why and changes neither bridge nor subscriptions. -/
theorem failsClean_subscribe (s : Subscription) :
    (r.subscribe s subs shared).1.FailsClean (shared.bridge, subs)
      ((r.subscribe s subs shared).2.2.bridge, (r.subscribe s subs shared).2.1) := by
  rw [subscribe]
  split
  · exact Response.failsClean_self (Text.append_ne_empty_right _ (Text.hexByte_ne_empty _))
  · split
    · split
      · exact Response.failsClean_of_ok rfl
      · rename_i hremove
        obtain rfl := Subscriptions.eq_of_remove hremove
        exact Response.failsClean_self (Text.append_ne_empty_right _ (by decide))
    · exact Response.failsClean_of_ok rfl

variable [Simulation σ]

/-! ## Steps -/

/-- A step that fails says why and changes neither bridge nor subscriptions. -/
theorem failsClean_simStep (target : Double) :
    (r.simStep target subs shared).1.FailsClean (shared.bridge, subs)
      ((r.simStep target subs shared).2.2.bridge, (r.simStep target subs shared).2.1) := by
  rw [simStep]
  dsimp only
  split
  · refine Response.failsClean_self ?_
    exact Text.append_ne_empty_left (Text.append_ne_empty_right _ (by decide)) _
  · split
    · exact Response.failsClean_of_ok rfl
    · rename_i e after hadvance
      obtain rfl := Bridge.eq_of_advance_error hadvance
      exact Response.failsClean_self e.message_ne_empty

/-! ## Scenarios -/

variable {shared}

/-- The response to an outcome is clean if the outcome's errors are. -/
theorem failsClean_acknowledge {α : Type} {before after : α} {outcome : Except Error Unit} (o : Opcode)
    (h : ∀ e, outcome = .error e → after = before) :
    (acknowledge o outcome).FailsClean before after := by
  cases outcome with
  | ok _ => exact Response.failsClean_of_ok rfl
  | error e =>
    obtain rfl := h e rfl
    exact Response.failsClean_self e.message_ne_empty

/-- A scenario that is faulty on any line leaves everything as it was. -/
theorem eq_of_loadScenario_error {name text : String} {e : Error}
    (h : (loadScenario name text shared).1 = .error e) :
    (loadScenario name text shared).2 = shared := by
  rw [loadScenario, onState, Bridge.withState] at h ⊢
  cases hload : Simulation.loadScenario name text shared.bridge.state with
  | error e' => rfl
  | ok state =>
    rw [hload] at h
    cases h

/-- A file that cannot be loaded leaves everything as it was. -/
theorem eq_of_loadFile_error {path : String} {e : Error}
    (h : (loadFile path shared).1 = .error e) : (loadFile path shared).2 = shared := by
  rw [loadFile] at h ⊢
  cases hread : shared.files.readText path with
  | error _ => rfl
  | ok text =>
    rw [hread] at h
    exact eq_of_loadScenario_error h

/-- A file that was sent may be stored although it cannot be loaded, but the bridge stays as it was. -/
theorem bridge_eq_of_storeAndLoad_error {name content : String} {e : Error}
    (h : (r.storeAndLoad name content shared).1 = .error e) :
    (r.storeAndLoad name content shared).2.bridge = shared.bridge := by
  rw [storeAndLoad] at h ⊢
  split
  · rfl
  · rename_i hname
    rw [hname] at h
    dsimp only at h ⊢
    split
    · rfl
    · rename_i hstore
      rw [hstore] at h
      have hload := eq_of_loadScenario_error h
      rw [hload]

/-! ## One command -/

variable {r subs}

/-- Whatever command fails, the bridge and the session's subscriptions stay as they were. -/
theorem failsClean_route (h : r.registry.FailsClean) {c : Command} (hc : c.WellKinded) :
    (r.route c subs shared).response.FailsClean (shared.bridge, subs)
      ((r.route c subs shared).shared.bridge, (r.route c subs shared).subscriptions) := by
  -- a get or set has only the state to change, so the rest of the bridge is put around it
  have hstate {response : Response} {after : σ}
      (hclean : response.FailsClean shared.bridge.state after) :
      response.FailsClean (shared.bridge, subs) ({ shared.bridge with state := after }, subs) :=
    hclean.map fun state => ({ shared.bridge with state }, subs)
  cases c with
  | getVersion => exact Response.failsClean_of_ok rfl
  | close => exact Response.failsClean_of_ok rfl
  | load args =>
    cases args with
    | nil => exact Response.failsClean_self (show "LOAD expects a scenario path" ≠ "" by decide)
    | cons path rest =>
      show (acknowledge .load (loadFile path shared).1).FailsClean (shared.bridge, subs)
        ((loadFile path shared).2.bridge, subs)
      refine failsClean_acknowledge .load fun e hfail => ?_
      rw [eq_of_loadFile_error hfail]
  | sendFile name content =>
    show (acknowledge .sendFile (r.storeAndLoad name content shared).1).FailsClean
      (shared.bridge, subs) ((r.storeAndLoad name content shared).2.bridge, subs)
    refine failsClean_acknowledge .sendFile fun e hfail => ?_
    rw [bridge_eq_of_storeAndLoad_error r hfail]
  | simStep target => exact failsClean_simStep r subs shared target
  | get o var element =>
    exact hstate (Registry.failsClean_dispatch_get h hc var element shared.bridge.state)
  | set o var element value =>
    exact hstate (Registry.failsClean_dispatch_set h o var element value shared.bridge.state)
  | subscribe s => exact failsClean_subscribe r subs shared s

/-- The server answers every command under the command's own opcode. If the command failed, the response has
no body and says what went wrong, and the world, the step counters, the driver and the session's subscriptions
are as before. -/
theorem route_standard_atomic (directory : String) {c : Command} (hc : c.WellKinded)
    (subs : Subscriptions) (shared : Shared World) :
    let routed := (⟨.standard, directory⟩ : Router World).route c subs shared
    routed.response.status.opcode = c.opcode ∧
      (routed.response.status.result ≠ .ok →
        routed.response.body = .none ∧
        routed.response.status.description ≠ "" ∧
        routed.shared.bridge = shared.bridge ∧
        routed.subscriptions = subs) := by
  intro routed
  have hanswers : routed.response.Answers c := route_answers shared Registry.sound_standard hc
  have hclean : routed.response.FailsClean (shared.bridge, subs)
      (routed.shared.bridge, routed.subscriptions) :=
    failsClean_route Registry.failsClean_standard hc
  refine ⟨hanswers.opcode_eq, fun hfail => ?_⟩
  obtain ⟨hdescription, hunchanged⟩ := hclean hfail
  obtain ⟨hbridge, hsubs⟩ := Prod.mk.inj hunchanged
  exact ⟨Body.eq_none_of_failed hanswers.bodyFollows hfail, hdescription, hbridge, hsubs⟩

/-- The second line of the scenario is faulty, so that loading it fails and leaves a world with steps due. -/
theorem route_standard_atomic_load :
    let subs : Subscriptions := ⟨[⟨.subscribePerson, 0, 0, "1", [0x40]⟩]⟩
    let text := Utf8.encode "# two walkers\nwalker 3"
    let shared : Shared World :=
      ⟨⟨World.empty ⟨0x3FD999999999999A⟩, 5, 3, .running⟩,
        { entries := [(["walkers"], .file text), ([], .directory)], workingDirectory := [] }⟩
    let routed := (⟨.standard, "data"⟩ : Router World).route (.load ["walkers"]) subs shared
    routed.response.status =
        ⟨.load, .error, "Scenario error: line 2: unknown directive 'walker'"⟩ ∧
      routed.response.body = .none ∧ routed.shared.bridge = shared.bridge ∧
        routed.subscriptions = subs := by
  intro subs text shared
  obtain ⟨-, hclean⟩ := route_standard_atomic "data" (c := .load ["walkers"]) rfl subs shared
  have hstatus : ((⟨.standard, "data"⟩ : Router World).route (.load ["walkers"]) subs
      shared).response.status =
        ⟨.load, .error, "Scenario error: line 2: unknown directive 'walker'"⟩ := by
    decide +kernel
  have hfail : ResultCode.error ≠ .ok := by decide
  rw [hstatus] at hclean
  obtain ⟨hbody, -, hbridge, hsubs⟩ := hclean hfail
  exact ⟨hstatus, hbody, hbridge, hsubs⟩

end Router

end PedestrianControl
