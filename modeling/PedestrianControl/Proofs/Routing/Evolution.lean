import PedestrianControl.Proofs.Api.Calls
import PedestrianControl.Proofs.Routing.Stepping

/-!
# How the state evolves

The state is touched in three ways only: a handler is called, a step is run, or a scenario is loaded
(`Registry.Change`). Every command, whatever it is answered, makes of the state what some of these make of it, one
after the other (`Router.evolves_route`). So a property of the state that these three keep holds as long as it held at
the start, and nothing about routing has to be looked at again.
-/

namespace PedestrianControl

variable {σ : Type} [Simulation σ]

namespace Registry

/-- What can become of a state at once. -/
inductive Change (r : Registry σ) (state : σ) : σ → Prop
  | called {after : σ} (h : r.Call state after) : Change r state after
  | stepped : Change r state (Simulation.step state)
  | loaded {name text : String} {after : σ} (h : Simulation.loadScenario name text state = .ok after) :
      Change r state after

/-- What can become of a state in time. -/
def Evolves (r : Registry σ) : σ → σ → Prop := Relation.ReflTransGen r.Change

variable {r : Registry σ}

/-- Calls of handlers are one way for the state to evolve. -/
theorem Calls.evolves {before after : σ} (h : r.Calls before after) : r.Evolves before after :=
  Relation.ReflTransGen.mono (fun _ _ => Change.called) _ _ h

/-- Steps are one way for the state to evolve. -/
theorem evolves_steps (r : Registry σ) (n : Nat) (state : σ) :
    r.Evolves state (Simulation.steps n state) := by
  induction n generalizing state with
  | zero => exact .refl
  | succ n ih => exact .head .stepped (ih _)

/-- A property that every change keeps is kept in time. -/
theorem Evolves.keeps {holds : σ → Prop} (hchange : ∀ {s t}, r.Change s t → holds s → holds t)
    {before after : σ} (h : r.Evolves before after) (hbefore : holds before) : holds after := by
  induction h with
  | refl => exact hbefore
  | tail _ hlast ih => exact hchange hlast ih

end Registry

/-! ## Subscriptions -/

namespace Subscriptions

variable {r : Registry σ}

omit [Simulation σ] in
/-- Results of subscriptions touch the state by calls of handlers only. -/
theorem calls_results (r : Registry σ) (ss : List Subscription) (state : σ) :
    r.Calls state (results r ss state).2 := by
  induction ss generalizing state with
  | nil => exact .refl
  | cons s rest ih =>
    cases hs : r.surface? s.opcode with
    | none =>
      rw [results_cons_of_none hs]
      exact ih state
    | some surface =>
      have hfirst := surface.calls_subscriptionResult (Registry.mem_of_surface? hs) s.element s.vars state
      rw [results_cons_of_some hs]
      exact hfirst.trans (ih _)

/-- The evaluation of subscriptions at a step touches the state by calls of handlers only. -/
theorem evolves_evaluate (r : Registry σ) (subs : Subscriptions) (state : σ) :
    r.Evolves state (subs.evaluate r state).2.2 :=
  (calls_results r _ state).evolves

end Subscriptions

/-! ## Commands -/

/-- An advance runs steps, unless it is refused, and then has its look at the state. -/
theorem Bridge.evolves_advance {r : Registry σ} {α : Type} {atBoundary : σ → α × σ}
    (h : ∀ state, r.Evolves state (atBoundary state).2) (b : Bridge σ) (steps : Nat) :
    r.Evolves b.state (b.advance steps atBoundary).2.state := by
  cases hrequest : b.request steps with
  | error e =>
    rw [advance_of_request_error hrequest]
    exact .refl
  | ok accepted =>
    rw [advance_of_request_ok hrequest]
    exact (r.evolves_steps _ b.state).trans (h _)

namespace Router

variable (r : Router σ) (subs : Subscriptions) (shared : Shared σ)

/-- Loading a scenario makes the state evolve. -/
theorem evolves_loadScenario (name text : String) :
    r.registry.Evolves shared.bridge.state (loadScenario name text shared).2.bridge.state := by
  cases hload : Simulation.loadScenario name text shared.bridge.state with
  | ok after =>
    simp only [loadScenario, onState, Bridge.withState, hload]
    exact .single (.loaded hload)
  | error e =>
    simp only [loadScenario, onState, Bridge.withState, hload]
    exact .refl

/-- Loading the scenario of a file makes the state evolve. -/
theorem evolves_loadFile (path : String) :
    r.registry.Evolves shared.bridge.state (loadFile path shared).2.bridge.state := by
  rw [loadFile]
  split
  · exact .refl
  · exact r.evolves_loadScenario shared _ _

/-- Storing a file and loading it makes the state evolve. -/
theorem evolves_storeAndLoad (name content : String) :
    r.registry.Evolves shared.bridge.state (r.storeAndLoad name content shared).2.bridge.state := by
  rw [storeAndLoad]
  split
  · exact .refl
  · dsimp only
    split
    · exact .refl
    · exact r.evolves_loadScenario { shared with files := _ } _ _

/-- A step command makes the state evolve: steps are run, and then subscriptions are evaluated. -/
theorem evolves_simStep (target : Double) :
    r.registry.Evolves shared.bridge.state (r.simStep target subs shared).2.2.bridge.state := by
  rcases bridge_simStep_cases r target subs shared with hsame | ⟨steps, hbridge⟩
  · rw [hsame]
    exact .refl
  · rw [hbridge]
    refine Bridge.evolves_advance (fun state => ?_) shared.bridge steps
    exact subs.evolves_evaluate r.registry state

/-- A subscription, answered at once with its result, makes the state evolve. -/
theorem evolves_subscribe (s : Subscription) :
    r.registry.Evolves shared.bridge.state (r.subscribe s subs shared).2.2.bridge.state := by
  rw [subscribe]
  split
  · exact .refl
  · rename_i surface hsurface
    split
    · split <;> exact .refl
    · exact (surface.calls_subscriptionResult (Registry.mem_of_surface? hsurface) s.element s.vars _).evolves

/-- Whatever a command is answered, the state evolves. -/
theorem evolves_route (c : Command) :
    r.registry.Evolves shared.bridge.state (r.route c subs shared).shared.bridge.state := by
  cases c with
  | getVersion => exact .refl
  | close => exact .refl
  | simStep target => exact r.evolves_simStep subs shared target
  | load args =>
    cases args with
    | nil => exact .refl
    | cons path rest => exact r.evolves_loadFile shared path
  | sendFile name content => exact r.evolves_storeAndLoad shared name content
  | subscribe s => exact r.evolves_subscribe subs shared s
  | get o var element => exact (r.registry.calls_dispatch _ _).evolves
  | set o var element value => exact (r.registry.calls_dispatch _ _).evolves

/-- A batch makes the state evolve, command by command. -/
theorem evolves_routeEach (cs : List Command) :
    r.registry.Evolves shared.bridge.state (r.routeEach cs subs shared).2.2.bridge.state := by
  induction cs generalizing subs shared with
  | nil => exact .refl
  | cons c rest ih => exact (r.evolves_route subs shared c).trans (ih _ _)

end Router

end PedestrianControl
