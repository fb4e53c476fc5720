import Mathlib.Data.List.Induction
import PedestrianControl.Proofs.Bridge.Interleaving
import PedestrianControl.World.Basic

/-!
# No step is lost or shared

Whatever the interleaving of callers and driver, the bridge's counters are what the history says they should
be: `completed` counts the steps that were run (`Run.completed_eq`), `requested` those that were asked for
(`Run.requested_eq`). So two callers never wait for the same steps. An advance that returns does so with what
it finds in the state then, and by then as many steps as it asked for were run since its request
(`Run.sinceRequest_of_returned`).

As long as no advance fails on waking, every step asked for is run before the last caller leaves
(`Run.awaited`). A stop can make an advance fail. Then its steps stay scheduled, and a driver that is attached
later runs them though nobody waits for them (`exists_unclaimed_step`).
-/

namespace PedestrianControl.Bridge

variable {σ α : Type}

/-! ## The operations -/

/-- A driver attaches only to a bridge whose driver is stopped, and only the driver's state changes. -/
theorem attach_ok_cases {b attached : Bridge σ} (h : b.attach = .ok attached) :
    b.driver = .stopped ∧ attached = { b with driver := .running } := by
  unfold attach at h
  split at h
  · cases h
    exact ⟨‹_›, rfl⟩
  · cases h

/-- A stop changes the driver's state alone, and only if the driver runs. -/
theorem requestStop_eq (b : Bridge σ) :
    b.requestStop = { b with driver := if b.driver = .running then .stopping else b.driver } := by
  unfold requestStop
  split <;> simp [*]

/-- A driver takes a step only while it runs and a requested step is open. -/
theorem driverStep?_cases [Simulation σ] {b stepped : Bridge σ} (h : b.driverStep? = some stepped) :
    b.driver = .running ∧ b.completed < b.requested ∧
      stepped = { b with state := Simulation.step b.state, completed := b.completed + 1 } := by
  unfold driverStep? at h
  split at h
  · rename_i hdue
    cases h
    exact ⟨hdue.1, hdue.2, rfl⟩
  · cases h

/-- A driver leaves only when it no longer runs, and leaves its state stopped. -/
theorem driverLeaves?_cases {b left : Bridge σ} (h : b.driverLeaves? = some left) :
    b.driver ≠ .running ∧ left = { b with driver := .stopped } := by
  unfold driverLeaves? at h
  split at h
  · cases h
  · cases h
    exact ⟨‹_›, rfl⟩

/-- A caller is woken at its target exactly when that many steps are completed. -/
theorem wake_eq_reached_iff {b : Bridge σ} {target : Nat} :
    b.wake target = .reached ↔ target ≤ b.completed := by
  unfold wake
  split <;> rename_i h
  · simp [h]
  · split <;> simp [h]

/-- A caller is told that the driver stopped only when no driver runs. -/
theorem driver_ne_running_of_wake {b : Bridge σ} {target : Nat} (h : b.wake target = .stopped) :
    b.driver ≠ .running := by
  unfold wake at h
  split at h
  · cases h
  · split at h
    · assumption
    · cases h

variable [Simulation σ]

/-! ## Counters -/

namespace Turn

variable {s t : Scene σ α} {e : Event σ α}

/-- A turn changes the simulated state by the effect of its event and by nothing else. -/
theorem state_eq (h : Turn s e t) : t.bridge.state = e.effect s.bridge.state := by
  cases h with
  | attach h =>
    obtain ⟨-, rfl⟩ := attach_ok_cases h
    rfl
  | stop => simp [requestStop_eq, Event.effect]
  | step h =>
    obtain ⟨-, -, rfl⟩ := driverStep?_cases h
    rfl
  | leave h =>
    obtain ⟨-, rfl⟩ := driverLeaves?_cases h
    rfl
  | accept atBoundary hidle h =>
    obtain ⟨-, -, rfl⟩ := request_ok_cases h
    rfl
  | «return» hcall h hfound =>
    cases hfound
    rfl
  | _ => rfl

/-- One turn adds to the counters what its event says, and runs no step that was not asked for. -/
theorem counters (h : Turn s e t) (hle : s.bridge.completed ≤ s.bridge.requested) :
    t.bridge.completed = s.bridge.completed + e.stepsRun ∧
      t.bridge.requested = s.bridge.requested + e.stepsAsked ∧
      t.bridge.completed ≤ t.bridge.requested := by
  cases h with
  | attach h =>
    obtain ⟨-, rfl⟩ := attach_ok_cases h
    exact ⟨rfl, rfl, hle⟩
  | stop => simpa [requestStop_eq, Event.stepsRun, Event.stepsAsked] using hle
  | step h =>
    obtain ⟨-, hdue, rfl⟩ := driverStep?_cases h
    exact ⟨rfl, rfl, hdue⟩
  | leave h =>
    obtain ⟨-, rfl⟩ := driverLeaves?_cases h
    exact ⟨rfl, rfl, hle⟩
  | accept atBoundary hidle h =>
    obtain ⟨-, htarget, rfl⟩ := request_ok_cases h
    -- nothing is completed beyond what was requested, so the request starts from the latter
    rw [Nat.max_eq_left hle] at htarget
    refine ⟨rfl, htarget, ?_⟩
    simp only [Scene.bridge_put]
    omega
  | «return» hcall h hfound =>
    cases hfound
    exact ⟨rfl, rfl, hle⟩
  | _ => exact ⟨rfl, rfl, hle⟩

end Turn

namespace Run

variable {s t : Scene σ α} {events : List (Event σ α)}

/-- The state after a run is the replay of its events. -/
theorem state_eq (h : Run s events t) : t.bridge.state = replay s.bridge.state events := by
  induction h with
  | nil => rfl
  | cons hturn _ ih => rw [ih, hturn.state_eq, replay, replay, List.foldl_cons]

/-- Over a run the counters move by the steps run and the steps asked for, and completed never overtakes requested. -/
theorem counters (h : Run s events t) (hle : s.bridge.completed ≤ s.bridge.requested) :
    t.bridge.completed = s.bridge.completed + stepsRun events ∧
      t.bridge.requested = s.bridge.requested + stepsAsked events ∧
      t.bridge.completed ≤ t.bridge.requested := by
  induction h with
  | nil => simpa using hle
  | cons hturn _ ih =>
    obtain ⟨hcompleted, hrequested, hle'⟩ := hturn.counters hle
    obtain ⟨hcompleted', hrequested', hle''⟩ := ih hle'
    refine ⟨?_, ?_, hle''⟩
    · rw [hcompleted', hcompleted, stepsRun_cons]
      omega
    · rw [hrequested', hrequested, stepsAsked_cons]
      omega

variable {state : σ}

/-- From a fresh bridge on, no more steps are completed than were requested. -/
theorem completed_le_requested (h : Run (.opening state) events s) :
    s.bridge.completed ≤ s.bridge.requested :=
  (h.counters (Nat.le_refl 0)).2.2

/-- The steps completed are those that were run. -/
theorem completed_eq (h : Run (.opening state) events s) : s.bridge.completed = stepsRun events := by
  simpa [Scene.opening, fresh] using (h.counters (Nat.le_refl 0)).1

/-- The steps requested are those that accepted requests asked for. -/
theorem requested_eq (h : Run (.opening state) events s) :
    s.bridge.requested = stepsAsked events := by
  simpa [Scene.opening, fresh] using (h.counters (Nat.le_refl 0)).2.1

end Run

/-! ## Advances that return -/

/-- An advance under way after a turn was so before it, or the turn is its request. -/
theorem Turn.calls_cases {s t : Scene σ α} {e : Event σ α} (h : Turn s e t) {caller : Nat}
    {call : Call σ α} (hcall : t.calls caller = some call) :
    (s.calls caller = some call ∧ ∀ n f, e ≠ .accepted caller n f) ∨
      (e = .accepted caller call.steps call.atBoundary ∧
        call.target = max s.bridge.requested s.bridge.completed + call.steps) := by
  cases h with
  | @accept asking steps target b atBoundary hidle h =>
    obtain ⟨-, htarget, -⟩ := request_ok_cases h
    by_cases hsame : caller = asking
    · subst hsame
      rw [Scene.calls_put_self] at hcall
      cases hcall
      exact .inr ⟨rfl, htarget⟩
    · rw [Scene.calls_put_of_ne _ _ hsame] at hcall
      exact .inl ⟨hcall, fun n f heq => hsame (by cases heq; rfl)⟩
  | @fail ended _ _ _ | @«return» ended _ _ _ _ _ _ _ _ =>
    by_cases hsame : caller = ended
    · subst hsame
      rw [Scene.calls_put_self] at hcall
      cases hcall
    · rw [Scene.calls_put_of_ne _ _ hsame] at hcall
      exact .inl ⟨hcall, nofun⟩
  | _ => exact .inl ⟨hcall, nofun⟩

namespace Run

variable {s t : Scene σ α} {events : List (Event σ α)} {state : σ}

/-- A caller waits for its request, and what it waits for is far enough: the steps from the request to the
target are no fewer than those it asked for. -/
theorem sinceRequest_of_call (h : Run (.opening state) events s) {caller : Nat} {call : Call σ α}
    (hcall : s.calls caller = some call) :
    ∃ since, SinceRequest caller call.steps call.atBoundary since events ∧
      s.bridge.completed + call.steps ≤ call.target + stepsRun since := by
  -- the history grows at its end, so the induction takes the last turn off
  induction events using List.reverseRecOn generalizing s with
  | nil =>
    cases h
    cases hcall
  | append_singleton events e ih =>
    obtain ⟨before, hbefore, hturn⟩ := concat_iff.1 h
    obtain ⟨hcompleted, -, -⟩ := hturn.counters hbefore.completed_le_requested
    rcases hturn.calls_cases hcall with ⟨hold, hother⟩ | ⟨rfl, htarget⟩
    · obtain ⟨since, hsince, hfar⟩ := ih hbefore hold
      refine ⟨since ++ [e], hsince.concat hother, ?_⟩
      rw [hcompleted, stepsRun_append, stepsRun_cons, stepsRun_nil]
      omega
    · refine ⟨[], ⟨events, rfl, nofun⟩, ?_⟩
      have hnone : s.bridge.completed = before.bridge.completed := by
        simpa [Event.stepsRun] using hcompleted
      rw [hnone, stepsRun_nil]
      omega

/-- An advance that returns goes back to its caller's last request. As many steps as that asked for were run
since, and what it returns it found in the state of that moment. -/
theorem sinceRequest_of_returned {before after : List (Event σ α)} {caller : Nat}
    {atBoundary : σ → α × σ} {found : α}
    (h : Run (.opening state) (before ++ .returned caller atBoundary found :: after) s) :
    found = (atBoundary (replay state before)).1 ∧
      ∃ steps since, SinceRequest caller steps atBoundary since before ∧ steps ≤ stepsRun since := by
  obtain ⟨waiting, hbefore, hafter⟩ := append_iff.1 h
  cases hafter with
  | cons hturn _ =>
    cases hturn with
    | @«return» _ steps target _ _ _ hcall hwake hfound =>
      obtain ⟨since, hsince, hfar⟩ := hbefore.sinceRequest_of_call hcall
      have hreached := wake_eq_reached_iff.1 hwake
      have hstate : waiting.bridge.state = replay state before := hbefore.state_eq
      dsimp only at hfar
      refine ⟨?_, steps, since, hsince, by omega⟩
      rw [← hstate]
      exact (congrArg Prod.fst hfound).symm

end Run

/-! ## Runs in which no advance fails -/

/-- Nothing is scheduled that nobody waits for: every step is completed, or somebody waits for the last. -/
def Scene.Awaited (s : Scene σ α) : Prop :=
  s.bridge.completed = s.bridge.requested ∨
    ∃ caller call, s.calls caller = some call ∧ call.target = s.bridge.requested

/-- Somebody who waits is waited upon: no caller waits unless a driver runs. -/
def Scene.Attended (s : Scene σ α) : Prop :=
  s.bridge.driver = .running ∨ ∀ caller, s.calls caller = none

omit [Simulation σ] in
/-- When nobody waits any more, every requested step is completed. -/
theorem Scene.Awaited.completed_eq {s : Scene σ α} (h : s.Awaited) (hnone : ∀ caller, s.calls caller = none) :
    s.bridge.completed = s.bridge.requested := by
  rcases h with hdone | ⟨caller, call, hcall, -⟩
  · exact hdone
  · rw [hnone caller] at hcall
    cases hcall

namespace Turn

variable {s t : Scene σ α} {e : Event σ α}

/-- Only a caller whose advance fails leaves steps behind that nobody waits for. -/
theorem awaited (h : Turn s e t) (he : ∀ caller, e ≠ .failed caller)
    (hle : s.bridge.completed ≤ s.bridge.requested) (ha : s.Awaited) : t.Awaited := by
  cases h with
  | attach h =>
    obtain ⟨-, rfl⟩ := attach_ok_cases h
    exact ha
  | stop =>
    unfold Scene.Awaited
    rw [requestStop_eq]
    exact ha
  | step h =>
    obtain ⟨-, hdue, rfl⟩ := driverStep?_cases h
    -- a step was due, so that somebody waits for the last one
    rcases ha with hdone | hcalls
    · omega
    · exact .inr hcalls
  | leave h =>
    obtain ⟨-, rfl⟩ := driverLeaves?_cases h
    exact ha
  | accept atBoundary hidle h =>
    obtain ⟨-, -, rfl⟩ := request_ok_cases h
    exact .inr ⟨_, _, Scene.calls_put_self _ _ _, rfl⟩
  | fail hcall h => exact absurd rfl (he _)
  | @«return» caller steps target atBoundary found b hcall h hfound =>
    cases hfound
    have hreached := wake_eq_reached_iff.1 h
    rcases ha with hdone | ⟨last, lastCall, hlast, htarget⟩
    · exact .inl hdone
    by_cases hsame : last = caller
    · -- who waited for the last step has seen it completed
      subst hsame
      obtain rfl := Option.some.inj (hlast.symm.trans hcall)
      refine .inl (Nat.le_antisymm hle ?_)
      exact htarget ▸ hreached
    · exact .inr ⟨last, lastCall, (Scene.calls_put_of_ne _ _ hsame).trans hlast, htarget⟩
  | _ => exact ha

/-- Unless the driver is told to stop it goes on running while somebody waits, and no advance fails. -/
theorem attended (h : Turn s e t) (he : e ≠ .stopped) (ha : s.Attended) :
    t.Attended ∧ ∀ caller, e ≠ .failed caller := by
  cases h with
  | attach h =>
    obtain ⟨-, rfl⟩ := attach_ok_cases h
    exact ⟨.inl rfl, nofun⟩
  | stop => exact absurd rfl he
  | step h =>
    obtain ⟨-, -, rfl⟩ := driverStep?_cases h
    exact ⟨ha, nofun⟩
  | leave h =>
    obtain ⟨hdriver, rfl⟩ := driverLeaves?_cases h
    exact ⟨.inr (ha.resolve_left hdriver), nofun⟩
  | accept atBoundary hidle h =>
    obtain ⟨hdriver, -, rfl⟩ := request_ok_cases h
    exact ⟨.inl hdriver, nofun⟩
  | fail hcall h =>
    have hnone := ha.resolve_left (driver_ne_running_of_wake h)
    rw [hnone] at hcall
    cases hcall
  | «return» hcall h hfound =>
    cases hfound
    refine ⟨ha.imp id fun hnone => ?_, nofun⟩
    rw [hnone] at hcall
    cases hcall
  | _ => exact ⟨ha, nofun⟩

end Turn

namespace Run

variable {s t : Scene σ α} {events : List (Event σ α)} {state : σ}

/-- A run in which no advance fails leaves nothing scheduled that nobody waits for. -/
theorem awaited (h : Run s events t) (he : ∀ caller, .failed caller ∉ events)
    (hle : s.bridge.completed ≤ s.bridge.requested) (ha : s.Awaited) : t.Awaited := by
  induction h with
  | nil => exact ha
  | @cons s mid t e events hturn _ ih =>
    have hfirst : ∀ caller, e ≠ .failed caller := fun caller heq => he caller (heq ▸ List.mem_cons_self)
    have hrest : ∀ caller, .failed caller ∉ events :=
      fun caller hmem => he caller (List.mem_cons_of_mem e hmem)
    exact ih hrest (hturn.counters hle).2.2 (hturn.awaited hfirst hle ha)

/-- As long as nobody stops the driver, no advance fails. -/
theorem not_failed (h : Run s events t) (he : .stopped ∉ events) (ha : s.Attended) (caller : Nat) :
    .failed caller ∉ events := by
  induction h with
  | nil => exact List.not_mem_nil
  | cons hturn _ ih =>
    simp only [List.mem_cons, not_or] at he ⊢
    obtain ⟨hattended, hnot⟩ := hturn.attended (Ne.symm he.1) ha
    exact ⟨(hnot caller).symm, ih he.2 hattended⟩

/-- If no advance failed, every step asked for was run once nobody waits any more. -/
theorem completed_eq_requested (h : Run (.opening state) events s)
    (he : ∀ caller, .failed caller ∉ events) (hnone : ∀ caller, s.calls caller = none) :
    s.bridge.completed = s.bridge.requested :=
  (h.awaited he (Nat.le_refl 0) (.inl rfl)).completed_eq hnone

end Run

/-! ## Every interleaving -/

/-- In every run of callers and driver from a fresh bridge: no more is completed than was requested; as many
steps are completed as the driver ran, and the state is what these steps and the callers made of it; an
advance that returns found what it returns in the state of that moment, and since its request at least the
steps it asked for were run; and if the driver is never told to stop, the steps completed once every accepted
advance has returned are all those that were asked for. -/
theorem run_conserves_steps {state : σ} {events : List (Event σ α)} {s : Scene σ α}
    (h : Run (.opening state) events s) :
    s.bridge.completed ≤ s.bridge.requested ∧
      s.bridge.completed = stepsRun events ∧ s.bridge.state = replay state events ∧
      (∀ before caller atBoundary found after,
        events = before ++ .returned caller atBoundary found :: after →
          found = (atBoundary (replay state before)).1 ∧
          ∃ steps since, SinceRequest caller steps atBoundary since before ∧ steps ≤ stepsRun since) ∧
      (.stopped ∉ events → (∀ caller, s.calls caller = none) →
        s.bridge.completed = stepsAsked events) := by
  refine ⟨h.completed_le_requested, h.completed_eq, h.state_eq, ?_, ?_⟩
  · rintro before caller atBoundary found after rfl
    exact h.sinceRequest_of_returned
  · intro hstop hnone
    have hfailed := h.not_failed hstop (.inr fun _ => rfl)
    rw [h.completed_eq_requested hfailed hnone, h.requested_eq]

/-- Two callers ask one after the other, and the one who asked first returns first; the other has been woken
by each step before. -/
theorem run_conserves_steps_two_callers :
    let look : World → Double × World := fun w => (w.time, w)
    let w := World.empty ⟨0x3FD999999999999A⟩
    let first : List (Event World Double) :=
      [.attached, .accepted 0 2 look, .accepted 1 1 look, .stepped, .slept 1, .stepped]
    let events := first ++ [.returned 0 look w.step.step.time, .slept 1, .stepped,
      .returned 1 look w.step.step.step.time]
    ∃ s, Run (.opening w) events s ∧ s.bridge.completed = 3 ∧ s.bridge.state = w.step.step.step ∧
      ∃ steps since, SinceRequest 0 steps look since first ∧ steps ≤ stepsRun since := by
  intro look w first events
  have hrun : ∃ s, Run (.opening w) events s := by
    apply Exists.intro
    apply Run.cons (.attach rfl)
    apply Run.cons (.accept look rfl rfl)
    apply Run.cons (.accept look rfl rfl)
    apply Run.cons (.step rfl)
    apply Run.cons (.sleep rfl rfl)
    apply Run.cons (.step rfl)
    apply Run.cons (.return rfl rfl rfl)
    apply Run.cons (.sleep rfl rfl)
    apply Run.cons (.step rfl)
    apply Run.cons (.return rfl rfl rfl)
    apply Run.nil
  obtain ⟨s, hrun⟩ := hrun
  obtain ⟨-, hcompleted, hstate, hreturned, -⟩ := run_conserves_steps hrun
  exact ⟨s, hrun, hcompleted, hstate, (hreturned first 0 look _ _ rfl).2⟩

/-! ## Steps left behind -/

/-- Unless an advance failed on waking, nothing is scheduled when no advance is under way, whatever was refused
before; and then no driver, also one that is attached later, runs a step until a request is accepted. -/
theorem settled_of_not_failed {state : σ} {before : List (Event σ α)} {s : Scene σ α}
    (h : Run (.opening state) before s) (hfailed : ∀ caller, .failed caller ∉ before)
    (hnone : ∀ caller, s.calls caller = none) :
    s.bridge.requested = s.bridge.completed ∧
      ∀ after t, Run s after t → (∀ caller steps f, .accepted caller steps f ∉ after) →
        stepsRun after = 0 := by
  have hsettled := h.completed_eq_requested hfailed hnone
  refine ⟨hsettled.symm, fun after t hafter hnever => ?_⟩
  obtain ⟨hcompleted, hrequested, hle⟩ := hafter.counters (Nat.le_of_eq hsettled)
  rw [stepsAsked_eq_zero hnever] at hrequested
  omega

/-- A caller's second request is one too large to count, and its third comes after the driver has left. Both
are refused and schedule nothing. -/
theorem settled_of_not_failed_refused :
    let look : World → Double × World := fun w => (w.time, w)
    let w := World.empty ⟨0x3FD999999999999A⟩
    let served : List (Event World Double) :=
      [.attached, .accepted 0 1 look, .stepped, .returned 0 look w.step.time]
    let refused : List (Event World Double) :=
      [.refused 0 18446744073709551615 (.protocol (.counterOverflow 18446744073709551615)),
        .stopped, .left, .refused 0 1 .driverStopped]
    (∀ caller, .failed caller ∉ served ++ refused) ∧
      ∃ s, Run (.opening w) (served ++ refused) s ∧ (∀ caller, s.calls caller = none) ∧
        s.bridge.requested = s.bridge.completed ∧
        ∀ after t, Run s after t → (∀ caller steps f, .accepted caller steps f ∉ after) →
          stepsRun after = 0 := by
  intro look w served refused
  have hfailed : ∀ caller, .failed caller ∉ served ++ refused := by simp [served, refused]
  have hserved : ∃ s, Run (.opening w) served s ∧ s.bridge = ⟨w.step, 1, 1, .running⟩ ∧
      ∀ caller, s.calls caller = none := by
    apply Exists.intro
    apply And.intro
    · apply Run.cons (.attach rfl)
      apply Run.cons (.accept look rfl rfl)
      apply Run.cons (.step rfl)
      apply Run.cons (.return rfl rfl rfl)
      apply Run.nil
    · exact ⟨rfl, Scene.calls_put_none fun _ h => Scene.calls_put_of_ne _ _ h⟩
  obtain ⟨⟨b, calls⟩, hserved, rfl, hnone⟩ := hserved
  have hoverflow : request 18446744073709551615 (⟨w.step, 1, 1, .running⟩ : Bridge World)
      = .error (.protocol (.counterOverflow 18446744073709551615)) := by
    simp [request, counterLimit]
  have hrefused : Run ⟨⟨w.step, 1, 1, .running⟩, calls⟩ refused ⟨⟨w.step, 1, 1, .stopped⟩, calls⟩ :=
    .cons (.refuse (hnone 0) hoverflow) <| .cons .stop <| .cons (.leave rfl) <|
      .cons (.refuse (hnone 0) rfl) <| .nil _
  have hrun := Run.append_iff.2 ⟨_, hserved, hrefused⟩
  exact ⟨hfailed, _, hrun, hnone, settled_of_not_failed hrun hfailed hnone⟩

/-- A caller asks for two steps, and the driver is told to stop after the first. The caller's advance fails
and nobody waits any more, but its second step stays scheduled: the next driver runs it unasked. -/
theorem exists_unclaimed_step :
    let look : World → Double × World := fun w => (w.time, w)
    let w := World.empty ⟨0x3FD999999999999A⟩
    ∃ s t : Scene World Double,
      Run (.opening w) [.attached, .accepted 0 2 look, .stepped, .stopped, .failed 0] s ∧
        (∀ caller, s.calls caller = none) ∧ s.bridge.requested = 2 ∧ s.bridge.completed = 1 ∧
        Run s [.left, .attached, .stepped] t ∧ t.bridge.completed = 2 ∧
          t.bridge.state = w.step.step := by
  intro look w
  have hfailed : ∃ s : Scene World Double,
      Run (.opening w) [.attached, .accepted 0 2 look, .stepped, .stopped, .failed 0] s ∧
        (∀ caller, s.calls caller = none) ∧ s.bridge = ⟨w.step, 2, 1, .stopping⟩ := by
    apply Exists.intro
    apply And.intro
    · apply Run.cons (.attach rfl)
      apply Run.cons (.accept look rfl rfl)
      apply Run.cons (.step rfl)
      apply Run.cons .stop
      apply Run.cons (.fail rfl rfl)
      apply Run.nil
    · exact ⟨Scene.calls_put_none fun _ h => Scene.calls_put_of_ne _ _ h, rfl⟩
  obtain ⟨⟨b, calls⟩, hrun, hnone, rfl⟩ := hfailed
  have hlater : ∃ t, Run ⟨⟨w.step, 2, 1, .stopping⟩, calls⟩ [.left, .attached, .stepped] t ∧
      t.bridge.completed = 2 ∧ t.bridge.state = w.step.step := by
    apply Exists.intro
    apply And.intro
    · apply Run.cons (.leave rfl)
      apply Run.cons (.attach rfl)
      apply Run.cons (.step rfl)
      apply Run.nil
    · exact ⟨rfl, rfl⟩
  obtain ⟨t, hlater, hcompleted, hstate⟩ := hlater
  exact ⟨_, t, hrun, hnone, rfl, rfl, hlater, hcompleted, hstate⟩

end PedestrianControl.Bridge
