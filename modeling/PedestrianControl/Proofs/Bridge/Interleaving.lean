import Mathlib.Algebra.GroupWithZero.Nat
import Mathlib.Logic.Function.Basic
import PedestrianControl.Proofs.Bridge.Lockstep

/-!
# Many callers and a driver around one bridge

`Turn` says what can happen next around a bridge on which any number of callers advance while a driver that
waits for requests comes and goes. Each turn is one section in which the state is held exclusively, and it
carries out one of the bridge's own operations. A `Run` is any sequence of turns, so that every interleaving
is one.

An advance takes at least two turns: its request and its last waking. Between them others have theirs. One
whose count is reached already at its request is the case in which nobody comes between.

The events of a run are its history. `stepsRun` and `stepsAsked` count in it what was done and what was asked
for, and `replay` repeats on a state all that it did to the state; none of them looks at the bridge's counters.
-/

namespace PedestrianControl.Bridge

variable {σ α : Type}

/-! ## Callers -/

/-- An advance that was accepted and has not ended. -/
structure Call (σ α : Type) where
  /-- The steps asked for. -/
  steps : Nat
  /-- The count that is waited for. -/
  target : Nat
  /-- What is done with the state once the count is reached. -/
  atBoundary : σ → α × σ

/-- A bridge and the advances under way, at most one for each caller. -/
structure Scene (σ α : Type) where
  bridge : Bridge σ
  calls : Nat → Option (Call σ α)

/-- A fresh bridge and nobody around. -/
def Scene.opening (state : σ) : Scene σ α := ⟨fresh state, fun _ => none⟩

/-- The scene in which a caller waits for an advance, or no longer waits. -/
def Scene.put (s : Scene σ α) (caller : Nat) (call : Option (Call σ α)) : Scene σ α :=
  { s with calls := Function.update s.calls caller call }

/-- The calls in progress are kept apart from the bridge. -/
@[simp] theorem Scene.bridge_put (s : Scene σ α) (caller : Nat) (call : Option (Call σ α)) :
    (s.put caller call).bridge = s.bridge := rfl

/-- A caller has the call it was given. -/
@[simp] theorem Scene.calls_put_self (s : Scene σ α) (caller : Nat) (call : Option (Call σ α)) :
    (s.put caller call).calls caller = call := by
  simp [put]

/-- The other callers keep theirs. -/
theorem Scene.calls_put_of_ne (s : Scene σ α) {caller other : Nat} (call : Option (Call σ α))
    (h : other ≠ caller) : (s.put caller call).calls other = s.calls other := by
  simp [put, Function.update_of_ne h]

/-- Nobody waits any more once the only one who did has stopped waiting. -/
theorem Scene.calls_put_none {s : Scene σ α} {caller : Nat}
    (h : ∀ other, other ≠ caller → s.calls other = none) (other : Nat) :
    (s.put caller none).calls other = none := by
  by_cases hsame : other = caller
  · rw [hsame, calls_put_self]
  · rw [calls_put_of_ne _ _ hsame, h other hsame]

/-! ## Turns -/

/-- What happened in a turn. -/
inductive Event (σ α : Type)
  /-- A driver was attached. -/
  | attached
  /-- A driver was refused, as one is attached already. -/
  | rejected
  /-- The driver was told to stop. -/
  | stopped
  /-- The driver ran one step. -/
  | stepped
  /-- The driver left. -/
  | left
  /-- Somebody looked at the state or changed it. -/
  | visited (f : σ → α × σ)
  /-- A caller's request was refused, and with it the advance. -/
  | refused (caller steps : Nat) (e : Error)
  /-- A caller's request was accepted. -/
  | accepted (caller steps : Nat) (atBoundary : σ → α × σ)
  /-- A caller woke and sleeps on. -/
  | slept (caller : Nat)
  /-- A caller woke to a driver that was told to stop, and the advance failed. -/
  | failed (caller : Nat)
  /-- A caller woke to its count and returned with what it found in the state. -/
  | returned (caller : Nat) (atBoundary : σ → α × σ) (found : α)

/-- One section in which the state is held exclusively. -/
inductive Turn [Simulation σ] : Scene σ α → Event σ α → Scene σ α → Prop
  | attach {s b} (h : s.bridge.attach = .ok b) : Turn s .attached { s with bridge := b }
  | reject {s e} (h : s.bridge.attach = .error e) : Turn s .rejected s
  | stop {s} : Turn s .stopped { s with bridge := s.bridge.requestStop }
  | step {s b} (h : s.bridge.driverStep? = some b) : Turn s .stepped { s with bridge := b }
  | leave {s b} (h : s.bridge.driverLeaves? = some b) : Turn s .left { s with bridge := b }
  | visit {s} (f : σ → α × σ) : Turn s (.visited f) { s with bridge := (s.bridge.withState f).2 }
  | refuse {s caller steps e} (hidle : s.calls caller = none) (h : s.bridge.request steps = .error e) :
      Turn s (.refused caller steps e) s
  | accept {s caller steps target b} (atBoundary : σ → α × σ) (hidle : s.calls caller = none)
      (h : s.bridge.request steps = .ok (target, b)) :
      Turn s (.accepted caller steps atBoundary)
        (Scene.put { s with bridge := b } caller (some ⟨steps, target, atBoundary⟩))
  | sleep {s caller call} (hcall : s.calls caller = some call)
      (h : s.bridge.wake call.target = .asleep) : Turn s (.slept caller) s
  | fail {s caller call} (hcall : s.calls caller = some call)
      (h : s.bridge.wake call.target = .stopped) : Turn s (.failed caller) (s.put caller none)
  | return {s caller steps target atBoundary found b}
      (hcall : s.calls caller = some ⟨steps, target, atBoundary⟩)
      (h : s.bridge.wake target = .reached) (hfound : s.bridge.withState atBoundary = (found, b)) :
      Turn s (.returned caller atBoundary found) (Scene.put { s with bridge := b } caller none)

/-- Any number of turns, one after the other. -/
inductive Run [Simulation σ] : Scene σ α → List (Event σ α) → Scene σ α → Prop
  | nil (s) : Run s [] s
  | cons {s t u e events} (h : Turn s e t) (hrun : Run t events u) : Run s (e :: events) u

/-! ## Histories -/

/-- The steps that the driver ran in a turn. -/
def Event.stepsRun : Event σ α → Nat
  | stepped => 1
  | _ => 0

/-- The steps that a turn scheduled. -/
def Event.stepsAsked : Event σ α → Nat
  | accepted _ steps _ => steps
  | _ => 0

/-- What a turn does to the state. -/
def Event.effect [Simulation σ] : Event σ α → σ → σ
  | stepped, state => Simulation.step state
  | visited f, state => (f state).2
  | returned _ atBoundary _, state => (atBoundary state).2
  | _, state => state

/-- The steps that the driver ran. -/
def stepsRun (events : List (Event σ α)) : Nat := (events.map Event.stepsRun).sum

/-- The steps that accepted requests asked for. -/
def stepsAsked (events : List (Event σ α)) : Nat := (events.map Event.stepsAsked).sum

/-- A state after all that was done to it, in order. -/
def replay [Simulation σ] (state : σ) (events : List (Event σ α)) : σ :=
  events.foldl (fun state e => e.effect state) state

@[simp] theorem stepsRun_nil : stepsRun ([] : List (Event σ α)) = 0 := rfl

@[simp] theorem stepsRun_cons (e : Event σ α) (events : List (Event σ α)) :
    stepsRun (e :: events) = e.stepsRun + stepsRun events := by
  simp [stepsRun]

/-- The steps run in a run are those of its parts, added up. -/
@[simp] theorem stepsRun_append (before after : List (Event σ α)) :
    stepsRun (before ++ after) = stepsRun before + stepsRun after := by
  simp [stepsRun]

@[simp] theorem stepsAsked_nil : stepsAsked ([] : List (Event σ α)) = 0 := rfl

@[simp] theorem stepsAsked_cons (e : Event σ α) (events : List (Event σ α)) :
    stepsAsked (e :: events) = e.stepsAsked + stepsAsked events := by
  simp [stepsAsked]

/-- Where no request was accepted, nothing was asked for. -/
theorem stepsAsked_eq_zero {events : List (Event σ α)}
    (h : ∀ caller steps f, .accepted caller steps f ∉ events) : stepsAsked events = 0 := by
  induction events with
  | nil => rfl
  | cons e events ih =>
    have hrest := ih fun caller steps f hmem => h caller steps f (List.mem_cons_of_mem e hmem)
    have hfirst : e.stepsAsked = 0 := by
      cases e with
      | accepted caller steps f => exact absurd List.mem_cons_self (h caller steps f)
      | _ => rfl
    simp [hfirst, hrest]

/-- The events since a caller's last accepted request, which was for so many steps. -/
def SinceRequest (caller steps : Nat) (atBoundary : σ → α × σ) (since events : List (Event σ α)) : Prop :=
  ∃ before, events = before ++ .accepted caller steps atBoundary :: since ∧
    ∀ n f, .accepted caller n f ∉ since

/-- What has happened since a request grows by the next event, unless that is another request of the same caller. -/
theorem SinceRequest.concat {caller steps : Nat} {atBoundary : σ → α × σ}
    {since events : List (Event σ α)} {e : Event σ α}
    (h : SinceRequest caller steps atBoundary since events) (he : ∀ n f, e ≠ .accepted caller n f) :
    SinceRequest caller steps atBoundary (since ++ [e]) (events ++ [e]) := by
  obtain ⟨before, rfl, hsince⟩ := h
  refine ⟨before, by simp, ?_⟩
  intro n f hmem
  rcases List.mem_append.1 hmem with hmem | hmem
  · exact hsince n f hmem
  · exact he n f (List.mem_singleton.1 hmem).symm

/-! ## Runs in parts -/

namespace Run

variable [Simulation σ] {s u : Scene σ α}

/-- A run can be cut at any point. -/
theorem append_iff {before after : List (Event σ α)} :
    Run s (before ++ after) u ↔ ∃ t, Run s before t ∧ Run t after u := by
  constructor
  · intro h
    induction before generalizing s with
    | nil => exact ⟨s, .nil s, h⟩
    | cons e before ih =>
      cases h with
      | cons hturn hrun =>
        obtain ⟨t, hbefore, hafter⟩ := ih hrun
        exact ⟨t, .cons hturn hbefore, hafter⟩
  · rintro ⟨t, hbefore, hafter⟩
    induction hbefore with
    | nil => exact hafter
    | cons hturn _ ih => exact .cons hturn (ih hafter)

/-- The last turn of a run. -/
theorem concat_iff {before : List (Event σ α)} {e : Event σ α} :
    Run s (before ++ [e]) u ↔ ∃ t, Run s before t ∧ Turn t e u := by
  rw [append_iff]
  constructor
  · rintro ⟨t, hbefore, hlast⟩
    cases hlast with
    | cons hturn hrun =>
      cases hrun
      exact ⟨t, hbefore, hturn⟩
  · rintro ⟨t, hbefore, hturn⟩
    exact ⟨t, hbefore, .cons hturn (.nil u)⟩

end Run

end PedestrianControl.Bridge
