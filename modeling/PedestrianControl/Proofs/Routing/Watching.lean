import PedestrianControl.Proofs.Api.Failure
import PedestrianControl.Proofs.Routing.Answers

/-!
# Watching changes nothing

A subscription is answered by gets, and gets may change the state as far as surfaces in general go. A registry
is `ReadsOnly` if those of its surfaces do not. Then a get or a subscription leaves the state as it was, and
the results of many subscriptions are all taken in one state (`Subscriptions.results_eq`). A command that asks
for nothing else changes nothing that sessions share (`Router.shared_route_of_isReadOnly`).
-/

namespace PedestrianControl

variable {σ : Type}

/-! ## Gets -/

/-- A surface that fails clean and whose opcode for gets is one of a get. -/
structure Surface.ReadsOnly (s : Surface σ) : Prop extends s.FailsClean where
  get_category : s.opcodes.get.category = .get

namespace Surface.ReadsOnly

variable {s : Surface σ}

/-- To report one value of a subscription is to leave the state alone. -/
theorem subscribedValue (h : s.ReadsOnly) (element : String) (var : UInt8) (state : σ) :
    (s.subscribedValue element var state).2 = state := by
  rw [subscribedValue_snd]
  exact h.call_readsOnly h.get_category ⟨var, element, none⟩ state

/-- To report a subscription is to leave the state alone. -/
theorem subscriptionResult (h : s.ReadsOnly) (element : String) (vars : List UInt8) (state : σ) :
    (s.subscriptionResult element vars state).2 = state := by
  have hvalues : (vars.mapM (s.subscribedValue element) state).2 = state := by
    induction vars with
    | nil => rfl
    | cons var vars ih =>
      rw [StateM.mapM_cons]
      simp only [h.subscribedValue element var state]
      exact ih
  exact hvalues

end Surface.ReadsOnly

/-! ## Registries -/

namespace Registry

variable {r : Registry σ}

/-- A registry whose surfaces only read when they are asked for values. -/
def ReadsOnly (r : Registry σ) : Prop := ∀ s ∈ r.surfaces, s.ReadsOnly

/-- A surface of a registry that only reads does so itself. -/
theorem ReadsOnly.surface {o : Opcode} {s : Surface σ} (h : r.ReadsOnly)
    (hs : r.surface? o = some s) : s.ReadsOnly :=
  h s (mem_of_surface? hs)

/-- Both surfaces of the server only read when they are asked for values. -/
theorem readsOnly_standard : standard.ReadsOnly := by
  intro s hs
  refine ⟨failsClean_standard s hs, ?_⟩
  revert s
  simp only [standard, List.forall_mem_cons]
  exact ⟨rfl, rfl, List.forall_mem_nil _⟩

/-- A get leaves the state as it was, whatever becomes of it. -/
theorem ReadsOnly.dispatch_get (h : r.ReadsOnly) {o : Opcode} (ho : o.category = .get) (var : UInt8)
    (element : String) (state : σ) : (r.dispatch (.get o var element) state).2 = state := by
  rw [dispatch, Command.opcode]
  cases hs : r.surface? o with
  | none => rfl
  | some s =>
    show (s.answerGet o var element state).2 = state
    have hcall := (h.surface hs).call_readsOnly ho ⟨var, element, none⟩ state
    rw [Surface.answerGet_apply]
    rcases hresult : s.call o ⟨var, element, none⟩ state with ⟨_ | _ | _, after⟩ <;>
      simpa [hresult] using hcall

end Registry

/-! ## Subscriptions -/

/-- What a subscription is answered in a state, if there is a surface for it. -/
def Subscription.resultIn (s : Subscription) (registry : Registry σ) (state : σ) :
    Option SubscriptionResult :=
  (registry.surface? s.opcode).map fun surface =>
    (surface.subscriptionResult s.element s.vars state).1

namespace Subscriptions

variable {registry : Registry σ}

/-- Every subscription has a surface to answer it. -/
def Served (registry : Registry σ) (subs : Subscriptions) : Prop :=
  ∀ s ∈ subs.entries, (registry.surface? s.opcode).isSome

/-- The subscriptions that are answered at a time, in order. -/
def liveAt (subs : Subscriptions) (time : Double) : List Subscription :=
  subs.entries.filter fun s => !s.isExpired time && s.isActive time

/-- Where every subscription has a surface, each is answered, and all in the state there is. -/
theorem results_eq (h : registry.ReadsOnly) {ss : List Subscription}
    (hserved : ∀ s ∈ ss, (registry.surface? s.opcode).isSome) (state : σ) :
    (results registry ss state).1.map some = ss.map (fun s => s.resultIn registry state) ∧
      (results registry ss state).2 = state := by
  induction ss with
  | nil => exact ⟨rfl, rfl⟩
  | cons s rest ih =>
    obtain ⟨hfirst, hrest⟩ := List.forall_mem_cons.1 hserved
    obtain ⟨surface, hsurface⟩ := Option.isSome_iff_exists.1 hfirst
    obtain ⟨hfound, hafter⟩ := ih hrest
    have hstate := (h.surface hsurface).subscriptionResult s.element s.vars state
    rw [results_cons_of_some hsurface]
    simp only [hstate, List.map_cons, hfound, hafter, Subscription.resultIn, hsurface, Option.map_some,
      and_self]

/-- What an evaluation finds, keeps and leaves behind. -/
theorem evaluate_eq [Simulation σ] (h : registry.ReadsOnly) {subs : Subscriptions}
    (hserved : subs.Served registry) (state : σ) :
    (subs.evaluate registry state).1.map some =
        (subs.liveAt (Simulation.time state)).map (fun s => s.resultIn registry state) ∧
      (subs.evaluate registry state).2 = (subs.unexpired (Simulation.time state), state) := by
  have hlive : ∀ s ∈ subs.liveAt (Simulation.time state), (registry.surface? s.opcode).isSome :=
    fun s hs => hserved s (List.mem_filter.1 hs).1
  -- dropping first and then looking for the active ones is looking for those that are both
  have hfilter : (subs.unexpired (Simulation.time state)).entries.filter
      (fun s => s.isActive (Simulation.time state)) = subs.liveAt (Simulation.time state) := by
    simp only [unexpired, liveAt, List.filter_filter, Bool.and_comm]
  obtain ⟨hfound, hafter⟩ := results_eq h hlive state
  unfold evaluate
  simp only [hfilter]
  exact ⟨hfound, Prod.ext rfl hafter⟩

/-- The empty list asks nothing of the registry. -/
theorem served_empty : Served registry empty := nofun

/-- A subscription with a surface may be registered. -/
theorem Served.register {subs : Subscriptions} {s : Subscription} (h : subs.Served registry)
    (hs : (registry.surface? s.opcode).isSome) : (subs.register s).2.Served registry := by
  intro t ht
  rcases mem_register ht with rfl | ht
  · exact hs
  · exact h t ht

/-- Some of the subscriptions have surfaces if all of them do. -/
theorem Served.filter {subs : Subscriptions} (h : subs.Served registry) (p : Subscription → Bool) :
    Served registry ⟨subs.entries.filter p⟩ :=
  fun s hs => h s (List.mem_filter.1 hs).1

end Subscriptions

/-! ## Commands -/

/-- Whether a command asks for nothing but what is known, now or with every step, or for the session's end. -/
def Command.isReadOnly : Command → Bool
  | getVersion | get .. | subscribe _ | close => true
  | _ => false

namespace Router

variable {r : Router σ}

/-- What leaves the state alone leaves alone all that sessions share. -/
theorem shared_onState {α : Type} {shared : Shared σ} {f : σ → α × σ}
    (h : (f shared.bridge.state).2 = shared.bridge.state) : (onState shared f).2 = shared := by
  simp [onState, Bridge.withState, h]

/-- With surfaces that only read, a subscription leaves alone all that sessions share. -/
theorem shared_subscribe (h : r.registry.ReadsOnly) (s : Subscription) (subs : Subscriptions)
    (shared : Shared σ) : (r.subscribe s subs shared).2.2 = shared := by
  unfold subscribe
  split
  · rfl
  · rename_i surface hsurface
    split
    · split <;> rfl
    · exact shared_onState ((h.surface hsurface).subscriptionResult s.element s.vars _)

/-- A command that only reads leaves all that sessions share as it was, whatever it is answered. -/
theorem shared_route_of_isReadOnly [Simulation σ] (h : r.registry.ReadsOnly) {c : Command}
    (hkind : c.WellKinded) (hc : c.isReadOnly = true) (subs : Subscriptions) (shared : Shared σ) :
    (r.route c subs shared).shared = shared := by
  cases c with
  | get o var element => exact shared_onState (h.dispatch_get hkind var element _)
  | subscribe s => exact shared_subscribe h s subs shared
  | getVersion | close => rfl
  | load | simStep | sendFile | set => cases hc

end Router

end PedestrianControl
