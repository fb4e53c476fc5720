import Mathlib.Algebra.Order.BigOperators.Group.List
import Mathlib.Algebra.Order.Group.Nat
import PedestrianControl.Proofs.Api.Size
import PedestrianControl.Proofs.Files.Fault
import PedestrianControl.Proofs.Routing.Loading
import PedestrianControl.Proofs.Routing.Stepping
import PedestrianControl.Proofs.World.Fault

/-!
# How long the answers of the router are

A response repeats the texts of its command, tells values or errors, and after a step the results of all
subscriptions. `Command.room` bounds it before the command is carried out, from the command, the subscriptions
of the session, the world and the files (`Router.length_response_route_le`). A batch of commands needs the room
of each in the state in which it is carried out (`Router.roomEach`).
-/

namespace PedestrianControl

open Text (hexByte ToldWithin)

/-! ## Gets and sets -/

namespace Surface.AnswersWithin

variable {s : Surface World}

/-- A get is answered within the room of the id and the world. -/
theorem length_answerGet_le (h : s.AnswersWithin) (o : Opcode) (var : UInt8) (element : String)
    (w : World) :
    (Output.response (s.answerGet o var element w).1).bytes.length ≤
      32 + element.utf8ByteSize + w.room element := by
  obtain ⟨herror, hvalue⟩ := h.call o ⟨var, element, none⟩ w
  rw [answerGet_apply]
  rcases hcall : s.call o ⟨var, element, none⟩ w with ⟨e | _ | v, after⟩
  · have he : e.message.utf8ByteSize ≤ w.room element := herror e (congrArg Prod.fst hcall)
    refine Nat.le_trans (Output.length_bare_response_le _) ?_
    dsimp only
    omega
  · have hnone := size_noValue var w element
    refine Nat.le_trans (Output.length_bare_response_le _) ?_
    dsimp only
    omega
  · have hv : (Output.typed v).bytes.length ≤ w.room element := hvalue v (congrArg Prod.fst hcall)
    have hbody : (Output.responseBody (.value ⟨s.opcodes.getResponse, var, element, v⟩)).bytes.length
        ≤ element.utf8ByteSize + w.room element + 11 := by
      refine Nat.le_trans (Output.length_enclose_le Output.length_unit_le _) ?_
      rw [Output.length_valueContent]
      dsimp only
      omega
    exact Nat.le_trans (Output.length_withBody_le hbody) (by omega)

/-- A set is answered within the room of its request. -/
theorem length_answerSet_le (h : s.AnswersWithin) (o : Opcode) (var : UInt8) (element : String)
    (value : TypedValue) (w : World) :
    (Output.response (s.answerSet o var element value w).1).bytes.length ≤
      11 + ValueRequest.room ⟨var, element, some value⟩ w := by
  have herror := (h.call o ⟨var, element, some value⟩ w).1
  rw [answerSet_apply]
  rcases hcall : s.call o ⟨var, element, some value⟩ w with ⟨e | v, after⟩
  · have he := herror e (congrArg Prod.fst hcall)
    refine Nat.le_trans (Output.length_bare_response_le _) ?_
    dsimp only
    omega
  · exact Nat.le_trans (Output.length_ok_le _) (Nat.le_add_right 11 _)

/-- A subscription reports one value for each variable, or its error as a text. -/
theorem subscriptionResult (h : s.AnswersWithin) (hreads : s.ReadsOnly) (element : String)
    (vars : List UInt8) (w : World) :
    (s.subscriptionResult element vars w).1.values.length = vars.length ∧
      ∀ v ∈ (s.subscriptionResult element vars w).1.values,
        (Output.typed v.value).bytes.length ≤ 5 + w.room element := by
  show (vars.mapM (s.subscribedValue element) w).1.length = vars.length ∧
    ∀ v ∈ (vars.mapM (s.subscribedValue element) w).1, _
  induction vars with
  | nil => exact ⟨rfl, nofun⟩
  | cons var vars ih =>
    obtain ⟨hlength, hvalues⟩ := ih
    have hfirst : (Output.typed (s.subscribedValue element var w).1.value).bytes.length
        ≤ 5 + w.room element := by
      obtain ⟨herror, hvalue⟩ := h.call s.opcodes.get ⟨var, element, none⟩ w
      rw [subscribedValue_apply]
      rcases hcall : s.call s.opcodes.get ⟨var, element, none⟩ w with ⟨e | _ | v, after⟩
      · have he : e.message.utf8ByteSize ≤ w.room element := herror e (congrArg Prod.fst hcall)
        dsimp only
        rw [Output.length_typed_string]
        omega
      · have hnone := size_noValue var w element
        dsimp only
        rw [Output.length_typed_string]
        omega
      · have hv : (Output.typed v).bytes.length ≤ w.room element := hvalue v (congrArg Prod.fst hcall)
        dsimp only
        omega
    rw [StateM.mapM_cons]
    simp only [hreads.subscribedValue element var w, List.length_cons, hlength, List.forall_mem_cons]
    exact ⟨trivial, hfirst, hvalues⟩

end Surface.AnswersWithin

namespace Registry

/-- Every surface of the standard registry answers within its room. -/
theorem answersWithin_of_surface? {o : Opcode} {s : Surface World}
    (hs : Registry.standard.surface? o = some s) : s.AnswersWithin :=
  answersWithin_standard s (mem_of_surface? hs)

/-- A command that no surface claims is refused in a few words. -/
theorem length_dispatch_of_unclaimed {c : Command} (h : standard.surface? c.opcode = none) (w : World) :
    (Output.response (standard.dispatch c w).1).bytes.length ≤ 46 := by
  have hanswer : (standard.dispatch c w).1 =
      .notImplemented c.opcode ("no API surface handles command " ++ hexByte c.opcode.code) := by
    rw [dispatch, h]
    rfl
  rw [hanswer]
  refine Nat.le_trans (Output.length_bare_response_le _) ?_
  dsimp only
  rw [Text.size_behind, Text.size_hexByte]
  decide

/-- A get is answered within the room of the id and the world, whether or not it has a surface. -/
theorem length_dispatch_get_le (o : Opcode) (var : UInt8) (element : String) (w : World) :
    (Output.response (standard.dispatch (.get o var element) w).1).bytes.length ≤
      32 + element.utf8ByteSize + w.room element := by
  cases hs : standard.surface? o with
  | none =>
    refine Nat.le_trans (length_dispatch_of_unclaimed (c := .get o var element) hs w) ?_
    rw [World.room]
    omega
  | some s =>
    have hanswer : standard.dispatch (.get o var element) w = s.answerGet o var element w := by
      rw [dispatch, Command.opcode, hs]
    rw [hanswer]
    exact (answersWithin_of_surface? hs).length_answerGet_le o var element w

/-- A set is answered within the room of its request, whether or not it has a surface. -/
theorem length_dispatch_set_le (o : Opcode) (var : UInt8) (element : String) (value : TypedValue)
    (w : World) :
    (Output.response (standard.dispatch (.set o var element value) w).1).bytes.length ≤
      32 + ValueRequest.room ⟨var, element, some value⟩ w := by
  cases hs : standard.surface? o with
  | none =>
    refine Nat.le_trans (length_dispatch_of_unclaimed (c := .set o var element value) hs w) ?_
    rw [ValueRequest.room, World.room]
    omega
  | some s =>
    have hanswer : standard.dispatch (.set o var element value) w = s.answerSet o var element value w := by
      rw [dispatch, Command.opcode, hs]
    have hset := (answersWithin_of_surface? hs).length_answerSet_le o var element value w
    rw [hanswer]
    exact Nat.le_trans hset (Nat.add_le_add_right (by decide) _)

end Registry

/-! ## Subscriptions -/

/-- Bytes that are enough for the result of a subscription. -/
def Subscription.room (s : Subscription) (w : World) : Nat :=
  16 + s.element.utf8ByteSize + s.vars.length * (16 + w.room s.element)

/-- What is reported of a subscription takes no more than the subscription's room. -/
theorem Subscription.length_result_le {s : Subscription} {surface : Surface World}
    (hsurface : Registry.standard.surface? s.opcode = some surface) (w : World) :
    (Output.subscriptionContent (surface.subscriptionResult s.element s.vars w).1).bytes.length + 10
      ≤ s.room w := by
  obtain ⟨hlength, hvalues⟩ := (Registry.answersWithin_of_surface? hsurface).subscriptionResult
    (Registry.readsOnly_standard.surface hsurface) s.element s.vars w
  have hcontent := Output.length_subscriptionContent_le hvalues
  rw [hlength] at hcontent
  have hroom : s.vars.length * (5 + w.room s.element + 2) ≤ s.vars.length * (16 + w.room s.element) :=
    Nat.mul_le_mul_left _ (by omega)
  have helement : (surface.subscriptionResult s.element s.vars w).1.element = s.element := rfl
  rw [helement] at hcontent
  rw [room]
  omega

namespace Subscriptions

/-- Bytes that are enough for the results of all subscriptions. -/
def room (subs : Subscriptions) (w : World) : Nat := (subs.entries.map fun s => s.room w).sum

/-- What is reported of several subscriptions takes no more than their room together. -/
theorem length_results_le (ss : List Subscription) (w : World) :
    ((results Registry.standard ss w).1.map fun result =>
      ((Output.subscriptionContent result).enclose extendedUnit).bytes.length).sum
        ≤ (ss.map fun s => s.room w).sum := by
  induction ss with
  | nil => exact Nat.le_refl 0
  | cons s rest ih =>
    rw [List.map_cons, List.sum_cons]
    cases hsurface : Registry.standard.surface? s.opcode with
    | none =>
      rw [results_cons_of_none hsurface]
      exact Nat.le_trans ih (Nat.le_add_left _ _)
    | some surface =>
      have hstate := (Registry.readsOnly_standard.surface hsurface).subscriptionResult s.element s.vars w
      have hunit := Output.length_enclose_le
        (fun content => Nat.le_of_eq (length_extendedUnit content))
        (Output.subscriptionContent (surface.subscriptionResult s.element s.vars w).1)
      have hfirst := Subscription.length_result_le hsurface w
      rw [results_cons_of_some hsurface]
      simp only [hstate, List.map_cons, List.sum_cons]
      exact Nat.add_le_add (by omega) ih

/-- The subscriptions that are evaluated are some of the session's. -/
theorem length_evaluate_le (subs : Subscriptions) (w : World) :
    (Output.responseBody (.simStep (subs.evaluate Registry.standard w).1)).bytes.length
      ≤ 4 + subs.room w := by
  refine Nat.le_trans (Output.length_list_le fun result _ => Nat.le_refl _) ?_
  refine Nat.add_le_add_left (Nat.le_trans (length_results_le _ w) ?_) 4
  have hsome : ((subs.unexpired (Simulation.time w)).entries.filter fun s =>
      s.isActive (Simulation.time w)).Sublist subs.entries :=
    List.filter_sublist.trans List.filter_sublist
  exact (hsome.map fun s => s.room w).sum_le_sum fun _ _ => Nat.zero_le _

end Subscriptions

/-! ## Steps -/

/-- Steps leave the number of pedestrians. -/
theorem World.size_steps (n : Nat) (w : World) :
    (Simulation.steps n w).crowd.size = w.crowd.size := by
  induction n generalizing w with
  | zero => rfl
  | succ n ih => exact (ih (World.step w)).trans (List.length_map _)

/-- Steps move pedestrians and leave their number, and so the room for what may be asked about them. -/
theorem Subscriptions.room_steps (subs : Subscriptions) (n : Nat) (w : World) :
    subs.room (Simulation.steps n w) = subs.room w := by
  simp only [room, Subscription.room, World.room, World.size_steps]

/-- The number of steps up to a time fits in 64 bits. -/
theorem stepsUntil_lt {target now stepLength : Double} {n : Nat}
    (h : stepsUntil target now stepLength = some n) : n < 2 ^ 64 := by
  rw [stepsUntil] at h
  split at h
  · cases h
  · split at h
    · obtain rfl := Option.some.inj h
      decide
    · obtain ⟨-, hsteps⟩ := Option.ite_none_right_eq_some.1 h
      obtain rfl := Option.some.inj hsteps
      exact UInt64.toNat_lt _

/-- A request of steps that is refused is refused in few words. -/
theorem Bridge.toldWithin_request {σ : Type} (b : Bridge σ) {steps : Nat} (h : steps < 2 ^ 64) :
    ToldWithin Error.message 64 (b.request steps) := by
  rw [request]
  split
  · exact .error (by decide)
  · dsimp only
    split
    · have hdigits : steps.repr.utf8ByteSize ≤ 20 := Text.size_repr_le (by decide) (by omega)
      refine .error ?_
      show ("Protocol error: " ++ ("cannot schedule " ++ steps.repr ++ " more steps")).utf8ByteSize ≤ 64
      rw [Text.size_behind, Text.size_within]
      exact Nat.le_trans (Nat.add_le_add_right (Nat.add_le_add_right hdigits _) _) (by decide)
    · exact .ok _

namespace Router

variable (directory : String) (subs : Subscriptions) (shared : Shared World)

/-- A step is answered within the room of its subscriptions and the two times it may name. -/
theorem length_simStep_le (target : Double) :
    (Output.response ((⟨.standard, directory⟩ : Router World).simStep target subs shared).1).bytes.length
      ≤ 128 + target.text.utf8ByteSize + shared.bridge.state.time.text.utf8ByteSize +
        subs.room shared.bridge.state := by
  rw [simStep]
  dsimp only
  split
  · have hsize : ("target time " ++ target.text ++ " is out of reach from " ++
        shared.bridge.state.time.text).utf8ByteSize =
          target.text.utf8ByteSize + shared.bridge.state.time.text.utf8ByteSize + 34 := Text.size_pair ..
    refine Nat.le_trans (Output.length_bare_response_le _) ?_
    show ("target time " ++ target.text ++ " is out of reach from " ++
      shared.bridge.state.time.text).utf8ByteSize + 11 ≤ _
    omega
  · rename_i steps hsteps
    have htold := shared.bridge.toldWithin_request (stepsUntil_lt hsteps)
    cases hrequest : shared.bridge.request steps with
    | error e =>
      have he := htold e hrequest
      rw [Bridge.advance_of_request_error hrequest]
      refine Nat.le_trans (Output.length_bare_response_le _) ?_
      dsimp only
      omega
    | ok accepted =>
      have hfound := subs.length_evaluate_le
        (Simulation.steps (accepted.1 - shared.bridge.completed) shared.bridge.state)
      rw [Subscriptions.room_steps] at hfound
      rw [Bridge.advance_of_request_ok hrequest]
      exact Nat.le_trans (Output.length_withBody_le hfound) (by omega)

/-- A subscription is answered within its room. -/
theorem length_subscribe_le (s : Subscription) :
    (Output.response ((⟨.standard, directory⟩ : Router World).subscribe s subs shared).1).bytes.length
      ≤ 128 + s.room shared.bridge.state := by
  have hroom : s.element.utf8ByteSize + 16 ≤ s.room shared.bridge.state := by
    rw [Subscription.room]
    omega
  rw [subscribe]
  dsimp only
  split
  · refine Nat.le_trans (Output.length_bare_response_le _) ?_
    show ("no API surface handles subscription " ++ hexByte s.opcode.code).utf8ByteSize + 11 ≤ _
    rw [Text.size_behind, Text.size_hexByte]
    exact Nat.le_trans (by decide) (Nat.le_add_right 128 _)
  · rename_i surface hsurface
    split
    · split
      · exact Nat.le_trans (Output.length_ok_le _) (by omega)
      · have hsize : ("no subscription for '" ++ s.element ++ "'").utf8ByteSize =
            s.element.utf8ByteSize + 22 := Text.size_within ..
        refine Nat.le_trans (Output.length_bare_response_le _) ?_
        show ("no subscription for '" ++ s.element ++ "'").utf8ByteSize + 11 ≤ _
        omega
    · have hresult := Subscription.length_result_le hsurface shared.bridge.state
      have hbody : (Output.responseBody (.subscription
          (surface.subscriptionResult s.element s.vars shared.bridge.state).1)).bytes.length
            ≤ s.room shared.bridge.state :=
        Nat.le_trans (Output.length_enclose_le Output.length_unit_le _) (by omega)
      exact Nat.le_trans (Output.length_withBody_le hbody) (by omega)

/-! ## Files -/

/-- The size of the text in the file at a path, if there is one. -/
def textSize (files : FileStore) (path : String) : Nat :=
  match files.readText path with
  | .ok text => text.utf8ByteSize
  | .error _ => 0

/-- The response to an outcome takes little more than the outcome's error. -/
theorem length_acknowledge_le {o : Opcode} {outcome : Except Error Unit} {n : Nat}
    (h : ToldWithin Error.message n outcome) :
    (Output.response (acknowledge o outcome)).bytes.length ≤ n + 11 := by
  cases outcome with
  | ok _ => exact Nat.le_trans (Output.length_ok_le o) (Nat.le_add_left _ _)
  | error e =>
    exact Nat.le_trans (Output.length_bare_response_le _) (Nat.add_le_add_right (h e rfl) 11)

/-- The message of an error of the file store takes ten bytes more than its text. -/
theorem size_io (e : IoError) : (Error.io e).message.utf8ByteSize = e.text.utf8ByteSize + 10 :=
  Text.size_behind "IO error: " e.text

/-- The message of a scenario's fault takes sixteen bytes more than the fault's own. -/
theorem size_scenario (fault : ScenarioFault) :
    (Error.scenario fault).message.utf8ByteSize = fault.message.utf8ByteSize + 16 :=
  Text.size_behind "Scenario error: " fault.message

/-- A text that cannot be loaded is refused in at most about twice its length. -/
theorem toldWithin_loadScenario (name text : String) :
    ToldWithin Error.message (2 * text.utf8ByteSize + 96) (loadScenario name text shared).1 := by
  cases hparse : Scenario.parse text with
  | ok s =>
    rw [loadScenario_of_parse hparse]
    exact .ok _
  | error fault =>
    have hfault := Scenario.size_message_of_parse hparse
    rw [loadScenario_of_fault hparse]
    refine .error ?_
    rw [size_scenario]
    omega

/-- A file that cannot be loaded is refused in at most about twice its length, besides its path. -/
theorem toldWithin_loadFile (path : String) :
    ToldWithin Error.message (96 + path.utf8ByteSize + 2 * textSize shared.files path)
      (loadFile path shared).1 := by
  have htold := FileStore.toldWithin_readText (s := shared.files) path
  rw [loadFile, textSize]
  cases hread : shared.files.readText path with
  | error e =>
    have he := htold e hread
    have hmessage : (ScenarioFault.cannotRead path e).message.utf8ByteSize
        = path.utf8ByteSize + e.text.utf8ByteSize + 14 :=
      Text.size_pair "cannot read " path ": " e.text
    refine .error ?_
    rw [size_scenario, hmessage]
    omega
  | ok text => exact (toldWithin_loadScenario shared _ text).mono (by dsimp only; omega)

/-- A file that is sent and cannot be loaded is refused in at most about twice its length, besides its name. -/
theorem toldWithin_storeAndLoad (name content : String) :
    ToldWithin Error.message (96 + name.utf8ByteSize + 2 * content.utf8ByteSize)
      ((⟨.standard, directory⟩ : Router World).storeAndLoad name content shared).1 := by
  rw [storeAndLoad]
  split
  · have hsize : (ScenarioFault.invalidFileName name).message.utf8ByteSize = name.utf8ByteSize + 20 :=
      Text.size_within "invalid file name '" name "'"
    refine .error ?_
    rw [size_scenario]
    omega
  · rename_i fileName _
    have hstore : FileStore.FailsWithin 64 (do
        FileStore.ensureDirectories directory
        FileStore.write (Path.join directory fileName) (Utf8.encode content) : FileAction PUnit) :=
      (FileStore.failsWithin_ensureDirectories directory).bind fun _ => FileStore.failsWithin_write _ _
    dsimp only
    split
    · rename_i e files hfail
      have he := hstore _ e files hfail
      refine .error ?_
      rw [size_io]
      omega
    · exact (toldWithin_loadScenario _ _ content).mono (by omega)

end Router

/-! ## One command and many -/

/-- Bytes that are enough for the response to a command, whatever becomes of it. -/
def Command.room (c : Command) (subs : Subscriptions) (shared : Shared World) : Nat :=
  let w := shared.bridge.state
  match c with
  | .getVersion | .close | .load [] => 128
  | .load (path :: _) => 128 + path.utf8ByteSize + 2 * Router.textSize shared.files path
  | .sendFile name content => 128 + name.utf8ByteSize + 2 * content.utf8ByteSize
  | .simStep target => 128 + target.text.utf8ByteSize + w.time.text.utf8ByteSize + subs.room w
  | .get _ _ element => 32 + element.utf8ByteSize + w.room element
  | .set _ var element value => 32 + ValueRequest.room ⟨var, element, some value⟩ w
  | .subscribe s => 128 + s.room w

namespace Router

variable (directory : String) (subs : Subscriptions) (shared : Shared World)

/-- Every command is answered within the room that is reckoned for it. -/
theorem length_response_route_le (c : Command) :
    (Output.response ((⟨.standard, directory⟩ : Router World).route c subs shared).response).bytes.length
      ≤ c.room subs shared := by
  cases c with
  | getVersion =>
    have hbody : (Output.responseBody (.version ⟨apiVersion, versionIdentifier⟩)).bytes.length ≤ 117 := by
      refine Nat.le_trans (Output.length_enclose_le Output.length_unit_le _) ?_
      rw [Output.length_versionContent]
      decide
    exact Output.length_withBody_le hbody
  | close => exact Nat.le_trans (Output.length_ok_le .close) (by decide : 11 ≤ 128)
  | load args =>
    cases args with
    | nil =>
      refine Nat.le_trans (Output.length_bare_response_le _) ?_
      show "LOAD expects a scenario path".utf8ByteSize + 11 ≤ 128
      decide
    | cons path rest =>
      have hload := length_acknowledge_le (o := .load) (toldWithin_loadFile shared path)
      exact Nat.le_trans hload (by rw [Command.room]; omega)
  | sendFile name content =>
    have hload := length_acknowledge_le (o := .sendFile)
      (toldWithin_storeAndLoad directory shared name content)
    exact Nat.le_trans hload (by rw [Command.room]; omega)
  | simStep target => exact length_simStep_le directory subs shared target
  | subscribe s => exact length_subscribe_le directory subs shared s
  | get o var element => exact Registry.length_dispatch_get_le o var element _
  | set o var element value => exact Registry.length_dispatch_set_le o var element value _

/-- Bytes that are enough for the responses to commands routed one by one, each in the state that the one before
it left. -/
def roomEach (r : Router World) : List Command → Subscriptions → Shared World → Nat
  | [], _, _ => 0
  | c :: rest, subs, shared =>
    let routed := r.route c subs shared
    c.room subs shared + roomEach r rest routed.subscriptions routed.shared

/-- The responses to a batch are within the room reckoned for its commands, each in the state it is carried out in. -/
theorem length_routeEach_le (cs : List Command) :
    let r : Router World := ⟨.standard, directory⟩
    ((r.routeEach cs subs shared).1.map fun response => (Output.response response).bytes.length).sum
      ≤ r.roomEach cs subs shared := by
  induction cs generalizing subs shared with
  | nil => exact Nat.le_refl 0
  | cons c rest ih =>
    exact Nat.add_le_add (length_response_route_le directory subs shared c) (ih _ _)

end Router

end PedestrianControl
