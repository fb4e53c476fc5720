import PedestrianControl.Api.Registry
import PedestrianControl.Simulation

/-!
# The subscriptions of a session

A session's subscriptions, at most one for each opcode and element, in the order in which they were first
registered.
-/

namespace PedestrianControl

/-- The subscriptions of a session in order. -/
structure Subscriptions where
  entries : List Subscription
deriving DecidableEq, Inhabited, Repr

namespace Subscriptions

/-- No subscription. -/
def empty : Subscriptions := ⟨[]⟩

/-- Whether a subscription is the one for an opcode and element. -/
def hasKey (o : Opcode) (element : String) (s : Subscription) : Bool :=
  s.opcode == o && s.element == element

/-- The list with a subscription put in place of the first one with its key; none if there is no such. -/
def replaceIn (s : Subscription) : List Subscription → Option (List Subscription)
  | [] => none
  | t :: rest =>
    if hasKey s.opcode s.element t then some (s :: rest) else (replaceIn s rest).map (t :: ·)

/-- Registers a subscription: in place of the one with its key, or at the end. Tells whether it replaced
one. -/
def register (subs : Subscriptions) (s : Subscription) : Bool × Subscriptions :=
  match replaceIn s subs.entries with
  | some entries => (true, ⟨entries⟩)
  | none => (false, ⟨subs.entries ++ [s]⟩)

/-- Removes the subscription for an opcode and element. Tells whether there was one. -/
def remove (subs : Subscriptions) (o : Opcode) (element : String) : Bool × Subscriptions :=
  (subs.entries.any (hasKey o element), ⟨subs.entries.filter fun s => !hasKey o element s⟩)

/-- Without the subscriptions whose span is over. -/
def unexpired (subs : Subscriptions) (time : Double) : Subscriptions :=
  ⟨subs.entries.filter fun s => !s.isExpired time⟩

/-- The results of subscriptions in order, those without a surface left out. -/
def results {σ : Type} (registry : Registry σ) : List Subscription → StateM σ (List SubscriptionResult)
  | [] => return []
  | s :: rest =>
    match registry.surface? s.opcode with
    | none => results registry rest
    | some surface => do
      let result ← surface.subscriptionResult s.element s.vars
      return result :: (← results registry rest)

/-- The results of the subscriptions active now. Those whose span is over are dropped. -/
def evaluate {σ : Type} [Simulation σ] (registry : Registry σ) (subs : Subscriptions) (state : σ) :
    List SubscriptionResult × Subscriptions × σ :=
  let now := Simulation.time state
  let kept := subs.unexpired now
  let (found, state) := results registry (kept.entries.filter fun s => s.isActive now) state
  (found, kept, state)

end Subscriptions

end PedestrianControl
