import PedestrianControl.Proofs.Bridge.Lockstep
import PedestrianControl.Proofs.Routing.Batch
import PedestrianControl.Proofs.Routing.Watching

/-!
# What a step reports

Between the commands of a session nothing is scheduled and every subscription has a surface to answer it: both
hold at the start, and every command keeps them (`Router.settled_routeEach`, `Router.served_routeEach`). So a
step that succeeds runs exactly the steps that its target is away, and reports the live subscriptions at the
time it has reached, all of them and no others (`Router.simStep_of_settled`).
-/

namespace PedestrianControl

variable {σ : Type}

/-- No step is scheduled. -/
def Bridge.Settled (b : Bridge σ) : Prop := b.requested = b.completed

/-- A subscription is registered only if there is a surface to answer it. -/
theorem Subscriptions.Served.route_subscribe {r : Router σ} {subs : Subscriptions}
    (h : subs.Served r.registry) (s : Subscription) (shared : Shared σ) :
    (r.subscribe s subs shared).2.1.Served r.registry := by
  rcases Router.subscribe_cases r subs shared s with
    ⟨_, -, hkept⟩ | ⟨-, hkept⟩ | ⟨surface, hsurface, -, hkept⟩
  · rwa [hkept]
  · rw [hkept]
    exact h.filter _
  · rw [hkept]
    exact h.register (Option.isSome_iff_exists.2 ⟨surface, hsurface⟩)

variable [Simulation σ]

namespace Bridge

variable {b after : Bridge σ} {steps : Nat}

/-- On a settled bridge an advance runs the steps it asks for, looks at the state it has reached, and leaves the
bridge settled. -/
theorem advance_of_settled {α : Type} {atBoundary : σ → α × σ} {a : α} (hb : b.Settled)
    (h : b.advance steps atBoundary = (.ok a, after)) :
    atBoundary (Simulation.steps steps b.state) = (a, after.state) ∧
      after.completed = b.completed + steps ∧ after.Settled := by
  unfold Settled at *
  cases hrequest : b.request steps with
  | error e =>
    rw [advance_of_request_error hrequest] at h
    cases h
  | ok accepted =>
    obtain ⟨-, htarget, -⟩ := request_ok_cases hrequest
    have hsteps : accepted.1 - b.completed = steps := by omega
    rw [advance_of_request_ok hrequest, hsteps] at h
    cases h
    exact ⟨rfl, by dsimp only; omega, rfl⟩

/-- An advance leaves a settled bridge settled, whether it succeeds or fails. -/
theorem Settled.advance {α : Type} {atBoundary : σ → α × σ} (hb : b.Settled) (steps : Nat) :
    (b.advance steps atBoundary).2.Settled := by
  rcases hresult : b.advance steps atBoundary with ⟨_ | _, after⟩
  · rwa [eq_of_advance_error hresult]
  · exact (advance_of_settled hb hresult).2.2

end Bridge

namespace Router

variable {r : Router σ} {subs : Subscriptions} {shared : Shared σ}

/-! ## What every command keeps -/

/-- All that a command other than a step does to the bridge is to change the state. -/
theorem bridge_route_cases (r : Router σ) (c : Command) (subs : Subscriptions) (shared : Shared σ) :
    (∃ target, c = .simStep target) ∨
      ∃ state, (r.route c subs shared).shared.bridge = { shared.bridge with state } := by
  have hload (name text : String) (files : FileStore) :
      ∃ state, (loadScenario name text { shared with files }).2.bridge = { shared.bridge with state } :=
    ⟨_, rfl⟩
  cases c with
  | simStep target => exact .inl ⟨target, rfl⟩
  | load args =>
    cases args with
    | nil => exact .inr ⟨_, rfl⟩
    | cons path rest =>
      right
      show ∃ state, (loadFile path shared).2.bridge = { shared.bridge with state }
      unfold loadFile
      split
      · exact ⟨_, rfl⟩
      · exact hload _ _ shared.files
  | sendFile name content =>
    right
    show ∃ state, (r.storeAndLoad name content shared).2.bridge = { shared.bridge with state }
    unfold storeAndLoad
    split
    · exact ⟨_, rfl⟩
    · dsimp only
      split
      · exact ⟨_, rfl⟩
      · exact hload _ _ _
  | subscribe s =>
    right
    show ∃ state, (r.subscribe s subs shared).2.2.bridge = { shared.bridge with state }
    unfold subscribe
    split
    · exact ⟨_, rfl⟩
    · split
      · split <;> exact ⟨_, rfl⟩
      · exact ⟨_, rfl⟩
  | _ => exact .inr ⟨_, rfl⟩

/-- The bridge after a step is that of an advance that evaluates the subscriptions, or nothing happened. -/
theorem bridge_simStep_cases (r : Router σ) (target : Double) (subs : Subscriptions) (shared : Shared σ) :
    (r.simStep target subs shared).2.2 = shared ∨
      ∃ steps, (r.simStep target subs shared).2.2.bridge =
        (shared.bridge.advance steps fun state =>
          let (found, kept, state) := subs.evaluate r.registry state
          ((found, kept), state)).2 := by
  rw [simStep]
  dsimp only
  split
  · exact .inl rfl
  · split
    · rename_i h
      exact .inr ⟨_, (congrArg Prod.snd h).symm⟩
    · rename_i h
      exact .inr ⟨_, (congrArg Prod.snd h).symm⟩

/-- A command leaves a settled bridge settled. -/
theorem settled_route (h : shared.bridge.Settled) (c : Command) (subs : Subscriptions) :
    (r.route c subs shared).shared.bridge.Settled := by
  rcases bridge_route_cases r c subs shared with ⟨target, rfl⟩ | ⟨state, hbridge⟩
  · show (r.simStep target subs shared).2.2.bridge.Settled
    rcases bridge_simStep_cases r target subs shared with hsame | ⟨steps, hbridge⟩
    · rwa [hsame]
    · rw [hbridge]
      exact h.advance steps
  · rw [hbridge]
    exact h

/-- After a command, every subscription has a surface to answer it, as before. -/
theorem served_route (h : subs.Served r.registry) (c : Command) (shared : Shared σ) :
    (r.route c subs shared).subscriptions.Served r.registry := by
  cases c with
  | simStep target =>
    show (r.simStep target subs shared).2.1.Served r.registry
    rcases simStep_cases r subs shared target with ⟨_, -, hkept⟩ | ⟨state, -, hkept⟩
    · rwa [hkept]
    · rw [hkept]
      exact h.filter _
  | subscribe s => exact h.route_subscribe s shared
  | load args => cases args <;> exact h
  | _ => exact h

/-- A batch leaves a settled bridge settled. -/
theorem settled_routeEach (cs : List Command) (subs : Subscriptions) (h : shared.bridge.Settled) :
    (r.routeEach cs subs shared).2.2.bridge.Settled := by
  induction cs generalizing subs shared with
  | nil => exact h
  | cons c rest ih => exact ih _ (settled_route h c subs)

/-- After a batch, every subscription has a surface to answer it, as before. -/
theorem served_routeEach (cs : List Command) (shared : Shared σ) (h : subs.Served r.registry) :
    (r.routeEach cs subs shared).2.1.Served r.registry := by
  induction cs generalizing subs shared with
  | nil => exact h
  | cons c rest ih => exact ih _ (served_route h c shared)

/-! ## A step -/

/-- A step that succeeds where nothing is scheduled. -/
theorem simStep_of_settled (hreads : r.registry.ReadsOnly) (hserved : subs.Served r.registry)
    (hsettled : shared.bridge.Settled) {target : Double}
    (hok : (r.simStep target subs shared).1.status.result = .ok) :
    let before := shared.bridge
    let after := (r.simStep target subs shared).2.2.bridge
    ∃ n found,
      stepsUntil target (Simulation.time before.state) (Simulation.stepLength before.state) = some n ∧
        after.state = Simulation.steps n before.state ∧ after.completed = before.completed + n ∧
        (r.simStep target subs shared).1 = .simStep found ∧
        found.map some = (subs.liveAt (Simulation.time after.state)).map
          (fun s => s.resultIn r.registry after.state) ∧
        (r.simStep target subs shared).2.1 = subs.unexpired (Simulation.time after.state) := by
  rw [simStep] at hok ⊢
  dsimp only at hok ⊢
  split at hok
  · cases hok
  · rename_i n hsteps
    split at hok
    · rename_i found kept after hadvance
      obtain ⟨hreached, hcompleted, -⟩ := Bridge.advance_of_settled hsettled hadvance
      obtain ⟨hfound, hkept⟩ :=
        Subscriptions.evaluate_eq hreads hserved (Simulation.steps n shared.bridge.state)
      rcases hevaluate : subs.evaluate r.registry (Simulation.steps n shared.bridge.state)
        with ⟨found', kept', state⟩
      rw [hevaluate] at hfound hkept
      simp only [hevaluate, Prod.mk.injEq] at hreached hkept
      obtain ⟨⟨rfl, rfl⟩, hstate⟩ := hreached
      obtain ⟨rfl, rfl⟩ := hkept
      rw [← hstate]
      exact ⟨n, found', hsteps, rfl, hcompleted, rfl, hfound, rfl⟩
    · cases hok

/-- After any commands of a session on a bridge on which nothing was scheduled, a step that is answered OK runs
exactly the steps that its target is away and completes as many. It reports, in order and in the world that was
reached, one result for each subscription that is live at the new time, and leaves out none; and the session
keeps, in order, the subscriptions whose span is not over then. -/
theorem simStep_reports_live (directory : String) (cs : List Command) (target : Double)
    (shared : Shared World) (hsettled : shared.bridge.requested = shared.bridge.completed) :
    let r : Router World := ⟨.standard, directory⟩
    let reached := r.routeEach cs .empty shared
    let subs := reached.2.1
    let before := reached.2.2.bridge
    let routed := r.route (.simStep target) subs reached.2.2
    let after := routed.shared.bridge
    routed.response.status.result = .ok →
      ∃ n found, stepsUntil target before.state.time before.state.stepLength = some n ∧
        after.state = Simulation.steps n before.state ∧ after.completed = before.completed + n ∧
        routed.response = .simStep found ∧
        found.map some = (subs.liveAt after.state.time).map (fun s => s.resultIn .standard after.state) ∧
        routed.subscriptions = subs.unexpired after.state.time := by
  intro r reached subs before routed after hok
  have hreached : reached.2.2.bridge.Settled := settled_routeEach cs .empty hsettled
  have hserved : subs.Served Registry.standard :=
    served_routeEach (r := r) cs shared Subscriptions.served_empty
  exact simStep_of_settled Registry.readsOnly_standard hserved hreached hok

/-- Of two subscriptions the first is over after the step, so that only the second is reported and kept. -/
theorem simStep_reports_live_clock :
    let window : Subscription :=
      ⟨.subscribePerson, Subscription.unbounded, ⟨0x3FC999999999999A⟩, "7", [0x40]⟩
    let clock : Subscription :=
      ⟨.subscribeSimulation, Subscription.unbounded, Subscription.unbounded, "", [0x66]⟩
    let shared : Shared World :=
      ⟨⟨World.empty ⟨0x3FD999999999999A⟩, 0, 0, .running⟩, { entries := [], workingDirectory := [] }⟩
    let r : Router World := ⟨.standard, "data"⟩
    let reached := r.routeEach [.subscribe window, .subscribe clock] .empty shared
    let routed := r.route (.simStep 0) reached.2.1 reached.2.2
    shared.bridge.requested = shared.bridge.completed ∧ routed.response.status.result = .ok ∧
      reached.2.1.entries = [window, clock] ∧ routed.subscriptions.entries = [clock] ∧
      routed.shared.bridge.completed = 1 ∧
      ∃ found, routed.response = .simStep found ∧
        found.map some = [clock.resultIn .standard routed.shared.bridge.state] := by
  intro window clock shared r reached routed
  have hok : routed.response.status.result = .ok := by decide +kernel
  obtain ⟨n, found, hn, -, hcompleted, hresponse, hfound, hkept⟩ :=
    simStep_reports_live "data" [.subscribe window, .subscribe clock] 0 shared rfl hok
  have hone : n = 1 := Option.some.inj (hn.symm.trans (by decide +kernel))
  have hlive : reached.2.1.liveAt routed.shared.bridge.state.time = [clock] := by decide +kernel
  have hunexpired : (reached.2.1.unexpired routed.shared.bridge.state.time).entries = [clock] := by
    decide +kernel
  have hentries : routed.subscriptions.entries = [clock] := by
    rw [← hunexpired]
    exact congrArg Subscriptions.entries hkept
  have hcount : routed.shared.bridge.completed = 1 := by
    rw [hone] at hcompleted
    exact hcompleted
  have hreported : found.map some = [clock.resultIn .standard routed.shared.bridge.state] := by
    rw [hlive] at hfound
    exact hfound
  exact ⟨rfl, hok, by decide +kernel, hentries, hcount, found, hresponse, hreported⟩

end Router

end PedestrianControl
