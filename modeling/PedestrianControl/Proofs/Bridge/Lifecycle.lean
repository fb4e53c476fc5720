import PedestrianControl.Proofs.Bridge.Accounting

/-!
# Drivers that come and go

Calls that start a driver, the handles they give and the loops on the threads behind them, around one bridge
with its callers. A call attaches to the bridge first and asks for a thread then. The operating system may
grant the thread or refuse it, and a call whose thread is refused takes the driver back by telling it to stop.
Giving up a handle, by shutdown or drop, tells the driver to stop and waits until the thread has ended.

`Course` is any sequence of such moves, so that every interleaving is one. What holds in all of them is
`course_lifecycle`: at most one loop is live at any time, a call that is rejected disturbs nobody, and unless a
thread was refused, the bridge is free for the next driver whenever nothing is going on. A refused thread leaves
the bridge in a stop that nobody ends (`Course.stuck`).
-/

namespace PedestrianControl.Bridge

variable {σ α : Type}

/-! ## Owners -/

/-- How far a call that starts a driver, and then the handle, have got. -/
inductive Tenure
  /-- No call is under way, and there is no handle. -/
  | none
  /-- The call has attached to the bridge and waits for its thread. -/
  | attached
  /-- The thread was refused, and the driver is not yet taken back. -/
  | denied
  /-- The call has returned the handle. -/
  | held
  /-- The handle was given up, and the end of the thread is waited for. -/
  | leaving
deriving DecidableEq

/-- Somebody who starts a driver, and the loop of that driver. -/
structure Owner where
  tenure : Tenure
  /-- The driver's loop has begun and not ended. -/
  live : Bool
deriving DecidableEq

/-- A bridge, its callers and the owners of drivers. -/
structure Stage (σ α : Type) where
  scene : Scene σ α
  owners : Nat → Owner

/-- A fresh bridge and nobody around. -/
def Stage.opening (state : σ) : Stage σ α := ⟨.opening state, fun _ => ⟨.none, false⟩⟩

/-- The stage after one section on the bridge in which an owner got further. -/
def Stage.next (s : Stage σ α) (scene : Scene σ α) (owner : Nat) (o : Owner) : Stage σ α :=
  ⟨scene, Function.update s.owners owner o⟩

/-- An owner is what its own step made it. -/
@[simp] theorem Stage.owners_next_self (s : Stage σ α) (scene : Scene σ α) (owner : Nat) (o : Owner) :
    (s.next scene owner o).owners owner = o := by
  simp [next]

/-- The other owners stay as they were. -/
theorem Stage.owners_next_of_ne (s : Stage σ α) (scene : Scene σ α) {owner other : Nat} (o : Owner)
    (h : other ≠ owner) : (s.next scene owner o).owners other = s.owners other := by
  simp [next, Function.update_of_ne h]

/-! ## Moves -/

/-- What happened in a turn of a session. Everything else is for owners and loops. -/
def Event.OfSession : Event σ α → Prop
  | visited _ | refused .. | accepted .. | slept _ | failed _ | returned .. => True
  | attached | rejected | stopped | stepped | left => False

/-- What happened in a move, and to which owner. -/
inductive Act (σ α : Type)
  /-- A call attached to the bridge. -/
  | attached (owner : Nat)
  /-- A call was rejected, as a driver is attached. -/
  | rejected (owner : Nat)
  /-- The thread was granted: its loop begins, and the call returns the handle. -/
  | granted (owner : Nat)
  /-- The thread was refused. -/
  | denied (owner : Nat)
  /-- The call told the driver to stop and failed. -/
  | gaveUp (owner : Nat)
  /-- The handle was given up and the driver told to stop. -/
  | stopped (owner : Nat)
  /-- The end of the thread was noticed. -/
  | joined (owner : Nat)
  /-- The loop ran a step. -/
  | stepped (owner : Nat)
  /-- The loop's interval ended. -/
  | waited (owner : Nat)
  /-- The loop ended. -/
  | left (owner : Nat)
  /-- A session had a turn. -/
  | session (e : Event σ α)

/-- One section in which the bridge is held exclusively, or one answer of the operating system. -/
inductive Move [Simulation σ] : Stage σ α → Act σ α → Stage σ α → Prop
  | attach {s k t} (hfree : (s.owners k).tenure = .none) (h : Turn s.scene .attached t) :
      Move s (.attached k) (s.next t k { s.owners k with tenure := .attached })
  | reject {s k t} (hfree : (s.owners k).tenure = .none) (h : Turn s.scene .rejected t) :
      Move s (.rejected k) { s with scene := t }
  | grant {s k} (hattached : (s.owners k).tenure = .attached) :
      Move s (.granted k) (s.next s.scene k ⟨.held, true⟩)
  | deny {s k} (hattached : (s.owners k).tenure = .attached) :
      Move s (.denied k) (s.next s.scene k { s.owners k with tenure := .denied })
  | giveUp {s k t} (hdenied : (s.owners k).tenure = .denied) (h : Turn s.scene .stopped t) :
      Move s (.gaveUp k) (s.next t k { s.owners k with tenure := .none })
  | stop {s k t} (hheld : (s.owners k).tenure = .held) (h : Turn s.scene .stopped t) :
      Move s (.stopped k) (s.next t k { s.owners k with tenure := .leaving })
  | join {s k} (hended : s.owners k = ⟨.leaving, false⟩) :
      Move s (.joined k) (s.next s.scene k ⟨.none, false⟩)
  | step {s k t} (hlive : (s.owners k).live = true) (h : Turn s.scene .stepped t) :
      Move s (.stepped k) { s with scene := t }
  | wait {s k} (hlive : (s.owners k).live = true) :
      Move s (.waited k) { s with scene := { s.scene with bridge := s.scene.bridge.intervalEnds } }
  | leave {s k t} (hlive : (s.owners k).live = true) (h : Turn s.scene .left t) :
      Move s (.left k) (s.next t k { s.owners k with live := false })
  | session {s e t} (he : e.OfSession) (h : Turn s.scene e t) :
      Move s (.session e) { s with scene := t }

/-- Any number of moves, one after the other. -/
inductive Course [Simulation σ] : Stage σ α → List (Act σ α) → Stage σ α → Prop
  | nil (s) : Course s [] s
  | cons {s t u a acts} (h : Move s a t) (hcourse : Course t acts u) : Course s (a :: acts) u

/-! ## What moves do to the driver's state -/

section Driver

variable [Simulation σ] {s t : Scene σ α} {e : Event σ α}

/-- Attaching turns a stopped driver into a running one. -/
theorem Turn.driver_of_attached (h : Turn s .attached t) :
    s.bridge.driver = .stopped ∧ t.bridge.driver = .running := by
  cases h with
  | attach h =>
    obtain ⟨hdriver, rfl⟩ := attach_ok_cases h
    exact ⟨hdriver, rfl⟩

/-- Rejecting a driver touches nothing, and there is one that has not left. -/
theorem Turn.eq_of_rejected (h : Turn s .rejected t) : t = s ∧ s.bridge.driver ≠ .stopped := by
  cases h with
  | reject h =>
    refine ⟨rfl, fun hstopped => ?_⟩
    unfold Bridge.attach at h
    rw [if_pos hstopped] at h
    cases h

/-- A stop turns a running driver into a stopping one. -/
theorem Turn.driver_of_stopped (h : Turn s .stopped t) (hdriver : s.bridge.driver = .running) :
    t.bridge.driver = .stopping := by
  cases h
  dsimp only
  rw [requestStop_eq, if_pos hdriver]

/-- A step leaves the driver's state alone. -/
theorem Turn.driver_of_stepped (h : Turn s .stepped t) : t.bridge.driver = s.bridge.driver := by
  cases h with
  | step h =>
    obtain ⟨-, -, rfl⟩ := driverStep?_cases h
    rfl

/-- A driver that leaves was not running, and is stopped thereafter. -/
theorem Turn.driver_of_left (h : Turn s .left t) :
    s.bridge.driver ≠ .running ∧ t.bridge.driver = .stopped := by
  cases h with
  | leave h =>
    obtain ⟨hdriver, rfl⟩ := driverLeaves?_cases h
    exact ⟨hdriver, rfl⟩

/-- What the sessions do leaves the driver's state alone. -/
theorem Turn.driver_of_session (h : Turn s e t) (he : e.OfSession) :
    t.bridge.driver = s.bridge.driver := by
  cases h with
  | accept atBoundary hidle h =>
    obtain ⟨-, -, rfl⟩ := request_ok_cases h
    rfl
  | «return» hcall h hfound =>
    cases hfound
    rfl
  | visit | refuse | sleep | fail => rfl
  | attach | reject | stop | step | leave => cases he

omit [Simulation σ] in
/-- The end of an interval leaves the driver's state alone. -/
theorem driver_intervalEnds (b : Bridge σ) : b.intervalEnds.driver = b.driver := by
  rw [intervalEnds]
  split <;> rfl

end Driver

/-! ## Who stands behind the driver's state -/

/-- Neither an attached call nor a handle nor a loop; at most a handle given up whose loop has ended. -/
def Owner.Away (o : Owner) : Prop := o.live = false ∧ (o.tenure = .none ∨ o.tenure = .leaving)

/-- A call before its thread begins or its driver is taken back, or a handle with its loop. -/
def Owner.Keeps (o : Owner) : Prop :=
  o.live = false ∧ (o.tenure = .attached ∨ o.tenure = .denied) ∨ o.live = true ∧ o.tenure = .held

/-- A handle given up whose loop has still to end. -/
def Owner.Lingers (o : Owner) : Prop := o.live = true ∧ o.tenure = .leaving

/-- An owner that keeps the driver is not away. -/
theorem Owner.Keeps.not_away {o : Owner} (h : o.Keeps) : ¬o.Away := by
  rintro ⟨hlive, htenure⟩
  rcases h with ⟨-, hkeeps | hkeeps⟩ | ⟨hlive', -⟩
  · rw [hkeeps] at htenure
    exact htenure.elim nofun nofun
  · rw [hkeeps] at htenure
    exact htenure.elim nofun nofun
  · exact Bool.noConfusion (hlive.symm.trans hlive')

/-- An owner whose loop has still to end is not away. -/
theorem Owner.Lingers.not_away {o : Owner} (h : o.Lingers) : ¬o.Away :=
  fun haway => Bool.noConfusion (haway.1.symm.trans h.1)

/-- All owners are away but one, of whom more is known. -/
def Stage.Sole (s : Stage σ α) (known : Owner → Prop) : Prop :=
  ∃ k, known (s.owners k) ∧ ∀ other, other ≠ k → (s.owners other).Away

/-- The driver's state tells who is there. Nobody is if it is stopped, and one owner keeps it if it is running.
If it is stopping, one loop has still to end, unless the stop was that of a call without a thread. -/
def Stage.Orderly (gaveUp : Prop) (s : Stage σ α) : Prop :=
  match s.scene.bridge.driver with
  | .stopped => ∀ k, (s.owners k).Away
  | .running => s.Sole Owner.Keeps
  | .stopping => s.Sole Owner.Lingers ∨ gaveUp ∧ ∀ k, (s.owners k).Away

namespace Stage

variable {s : Stage σ α} {gaveUp : Prop} {k : Nat} {scene : Scene σ α} {o : Owner}

/-- With the driver stopped, order means that nobody is there. -/
theorem orderly_stopped (h : s.scene.bridge.driver = .stopped) :
    s.Orderly gaveUp ↔ ∀ k, (s.owners k).Away := by
  rw [Orderly, h]

/-- With the driver running, order means that one owner keeps it and all others are away. -/
theorem orderly_running (h : s.scene.bridge.driver = .running) :
    s.Orderly gaveUp ↔ s.Sole Owner.Keeps := by
  rw [Orderly, h]

/-- With the driver stopping, order means that one loop has still to end, or that a call without a thread has stopped
it. -/
theorem orderly_stopping (h : s.scene.bridge.driver = .stopping) :
    s.Orderly gaveUp ↔ s.Sole Owner.Lingers ∨ gaveUp ∧ ∀ k, (s.owners k).Away := by
  rw [Orderly, h]

/-- A fresh stage is in order. -/
theorem orderly_opening (gaveUp : Prop) (state : σ) : (opening state : Stage σ α).Orderly gaveUp :=
  (orderly_stopped rfl).2 fun _ => ⟨rfl, .inl rfl⟩

/-- Only the sole owner is not away. -/
theorem Sole.of_not_away {known : Owner → Prop} (h : s.Sole known) (hk : ¬(s.owners k).Away) :
    known (s.owners k) ∧ ∀ other, other ≠ k → (s.owners other).Away := by
  obtain ⟨sole, hsole, hothers⟩ := h
  by_cases hsame : k = sole
  · exact hsame ▸ ⟨hsole, hothers⟩
  · exact absurd (hothers k hsame) hk

/-- An owner that changes while the others are away is the sole one. -/
theorem sole_next {known : Owner → Prop} (ho : known o) (h : ∀ other, other ≠ k → (s.owners other).Away) :
    (s.next scene k o).Sole known := by
  refine ⟨k, by rwa [owners_next_self], fun other hother => ?_⟩
  rw [owners_next_of_ne _ _ _ hother]
  exact h other hother

/-- If the owner that changes becomes away too, everybody is. -/
theorem away_next (ho : o.Away) (h : ∀ other, other ≠ k → (s.owners other).Away) (other : Nat) :
    ((s.next scene k o).owners other).Away := by
  by_cases hsame : other = k
  · rwa [hsame, owners_next_self]
  · rw [owners_next_of_ne _ _ _ hsame]
    exact h other hsame

/-- An attached call or a handle stands alone, behind a running driver. -/
theorem Orderly.of_tenure (h : s.Orderly gaveUp) (hnone : (s.owners k).tenure ≠ .none)
    (hleaving : (s.owners k).tenure ≠ .leaving) :
    s.scene.bridge.driver = .running ∧ (s.owners k).Keeps ∧
      ∀ other, other ≠ k → (s.owners other).Away := by
  have hk : ¬(s.owners k).Away := fun haway => haway.2.elim hnone hleaving
  cases hdriver : s.scene.bridge.driver with
  | stopped => exact absurd ((orderly_stopped hdriver).1 h k) hk
  | running => exact ⟨rfl, ((orderly_running hdriver).1 h).of_not_away hk⟩
  | stopping =>
    rcases (orderly_stopping hdriver).1 h with hsole | ⟨-, haway⟩
    · exact absurd (hsole.of_not_away hk).1.2 hleaving
    · exact absurd (haway k) hk

/-- A live loop is the only one. Its handle is held and the driver runs, or the handle was given up and the
driver is stopping. -/
theorem Orderly.of_live (h : s.Orderly gaveUp) (hlive : (s.owners k).live = true) :
    (s.scene.bridge.driver = .running ∧ (s.owners k).tenure = .held ∨
        s.scene.bridge.driver = .stopping ∧ (s.owners k).tenure = .leaving) ∧
      ∀ other, other ≠ k → (s.owners other).Away := by
  have hk : ¬(s.owners k).Away := fun haway => Bool.noConfusion (hlive.symm.trans haway.1)
  cases hdriver : s.scene.bridge.driver with
  | stopped => exact absurd ((orderly_stopped hdriver).1 h k) hk
  | running =>
    obtain ⟨⟨hended, -⟩ | ⟨-, hheld⟩, hothers⟩ := ((orderly_running hdriver).1 h).of_not_away hk
    · exact Bool.noConfusion (hended.symm.trans hlive)
    · exact ⟨.inl ⟨rfl, hheld⟩, hothers⟩
  | stopping =>
    rcases (orderly_stopping hdriver).1 h with hsole | ⟨-, haway⟩
    · obtain ⟨hlingers, hothers⟩ := hsole.of_not_away hk
      exact ⟨.inr ⟨rfl, hlingers.2⟩, hothers⟩
    · exact absurd (haway k) hk

/-- Where the driver's state stays, the order does so long as those who are there stay. -/
theorem Orderly.of_owners {t : Stage σ α} (h : s.Orderly gaveUp)
    (hdriver : t.scene.bridge.driver = s.scene.bridge.driver)
    (howners : ∀ k, t.owners k = s.owners k ∨ (s.owners k).Away ∧ (t.owners k).Away) :
    t.Orderly gaveUp := by
  have haway (k : Nat) (hk : (s.owners k).Away) : (t.owners k).Away :=
    (howners k).elim (fun heq => heq ▸ hk) And.right
  have hsole {known : Owner → Prop} (hnot : ∀ o, known o → ¬o.Away) (hs : s.Sole known) :
      t.Sole known := by
    obtain ⟨k, hk, hothers⟩ := hs
    refine ⟨k, ?_, fun other hother => haway other (hothers other hother)⟩
    rcases howners k with heq | ⟨hk', -⟩
    · rwa [heq]
    · exact absurd hk' (hnot _ hk)
  cases hold : s.scene.bridge.driver with
  | stopped =>
    rw [orderly_stopped hold] at h
    rw [orderly_stopped (hdriver.trans hold)]
    exact fun k => haway k (h k)
  | running =>
    rw [orderly_running hold] at h
    rw [orderly_running (hdriver.trans hold)]
    exact hsole (fun _ => Owner.Keeps.not_away) h
  | stopping =>
    rw [orderly_stopping hold] at h
    rw [orderly_stopping (hdriver.trans hold)]
    refine h.imp (hsole fun _ => Owner.Lingers.not_away) ?_
    exact fun ⟨hgave, hall⟩ => ⟨hgave, fun k => haway k (hall k)⟩

/-- Order allows for more calls without a thread than there were. -/
theorem Orderly.imp {gaveUp' : Prop} (h : s.Orderly gaveUp) (himp : gaveUp → gaveUp') :
    s.Orderly gaveUp' := by
  cases hdriver : s.scene.bridge.driver with
  | stopped => exact (orderly_stopped hdriver).2 ((orderly_stopped hdriver).1 h)
  | running => exact (orderly_running hdriver).2 ((orderly_running hdriver).1 h)
  | stopping =>
    exact (orderly_stopping hdriver).2 (((orderly_stopping hdriver).1 h).imp id (And.imp_left himp))

end Stage

variable [Simulation σ]

/-- Every move keeps the order. -/
theorem Move.orderly {s t : Stage σ α} {a : Act σ α} {gaveUp : Prop} (h : Move s a t)
    (hs : s.Orderly gaveUp) : t.Orderly (gaveUp ∨ ∃ k, a = .gaveUp k) := by
  cases h with
  | @attach k t hfree h =>
    obtain ⟨hstopped, hrunning⟩ := h.driver_of_attached
    have haway := (Stage.orderly_stopped hstopped).1 hs
    refine (Stage.orderly_running hrunning).2 (Stage.sole_next ?_ fun other _ => haway other)
    exact .inl ⟨(haway k).1, .inl rfl⟩
  | reject hfree h =>
    rw [h.eq_of_rejected.1]
    exact hs.imp .inl
  | grant hattached =>
    obtain ⟨hrunning, -, hothers⟩ := hs.of_tenure (by rw [hattached]; nofun) (by rw [hattached]; nofun)
    refine (Stage.orderly_running ?_).2 (Stage.sole_next (.inr ⟨rfl, rfl⟩) hothers)
    exact hrunning
  | deny hattached =>
    obtain ⟨hrunning, ⟨hended, -⟩ | ⟨-, hheld⟩, hothers⟩ :=
      hs.of_tenure (by rw [hattached]; nofun) (by rw [hattached]; nofun)
    · refine (Stage.orderly_running ?_).2 (Stage.sole_next (.inl ⟨hended, .inr rfl⟩) hothers)
      exact hrunning
    · cases hattached.symm.trans hheld
  | @giveUp k t hdenied h =>
    obtain ⟨hrunning, ⟨hended, -⟩ | ⟨-, hheld⟩, hothers⟩ :=
      hs.of_tenure (by rw [hdenied]; nofun) (by rw [hdenied]; nofun)
    · have hall : ∀ other, ((s.next t k { s.owners k with tenure := .none }).owners other).Away :=
        Stage.away_next ⟨hended, .inl rfl⟩ hothers
      exact (Stage.orderly_stopping (h.driver_of_stopped hrunning)).2 (.inr ⟨.inr ⟨k, rfl⟩, hall⟩)
    · cases hdenied.symm.trans hheld
  | stop hheld h =>
    obtain ⟨hrunning, ⟨-, htenure | htenure⟩ | ⟨hlive, -⟩, hothers⟩ :=
      hs.of_tenure (by rw [hheld]; nofun) (by rw [hheld]; nofun)
    · cases hheld.symm.trans htenure
    · cases hheld.symm.trans htenure
    · exact (Stage.orderly_stopping (h.driver_of_stopped hrunning)).2
        (.inl (Stage.sole_next ⟨hlive, rfl⟩ hothers))
  | @join k hended =>
    have howners (other : Nat) :
        (s.next s.scene k ⟨.none, false⟩).owners other = s.owners other ∨
          (s.owners other).Away ∧ ((s.next s.scene k ⟨.none, false⟩).owners other).Away := by
      by_cases hsame : other = k
      · rw [hsame, hended, Stage.owners_next_self]
        exact .inr ⟨⟨rfl, .inr rfl⟩, rfl, .inl rfl⟩
      · exact .inl (Stage.owners_next_of_ne _ _ _ hsame)
    have horder := hs.of_owners (t := s.next s.scene k ⟨.none, false⟩) rfl howners
    exact horder.imp .inl
  | @step k t hlive h =>
    have horder := hs.of_owners (t := { s with scene := t }) h.driver_of_stepped fun _ => .inl rfl
    exact horder.imp .inl
  | wait hlive =>
    have horder := hs.of_owners
      (t := { s with scene := { s.scene with bridge := s.scene.bridge.intervalEnds } })
      (driver_intervalEnds _) fun _ => .inl rfl
    exact horder.imp .inl
  | @leave k t hlive h =>
    obtain ⟨hnot, hstopped⟩ := h.driver_of_left
    obtain ⟨⟨hrunning, -⟩ | ⟨-, hleaving⟩, hothers⟩ := hs.of_live hlive
    · exact absurd hrunning hnot
    · exact (Stage.orderly_stopped hstopped).2 (Stage.away_next ⟨rfl, .inr hleaving⟩ hothers)
  | @session e t he h =>
    have horder := hs.of_owners (t := { s with scene := t }) (h.driver_of_session he) fun _ => .inl rfl
    exact horder.imp .inl

namespace Course

variable {s t u : Stage σ α} {acts : List (Act σ α)} {state : σ}

/-- A course keeps the stage in order, up to the calls without a thread in it. -/
theorem orderly {gaveUp : Prop} (h : Course s acts t) (hs : s.Orderly gaveUp) :
    t.Orderly (gaveUp ∨ ∃ k, .gaveUp k ∈ acts) := by
  induction h generalizing gaveUp with
  | nil => exact hs.imp .inl
  | cons hmove _ ih =>
    refine (ih (hmove.orderly hs)).imp ?_
    rintro ((hgave | ⟨k, rfl⟩) | ⟨k, hk⟩)
    · exact .inl hgave
    · exact .inr ⟨k, List.mem_cons_self⟩
    · exact .inr ⟨k, List.mem_cons_of_mem _ hk⟩

/-- At most one loop is live. -/
theorem live_unique (h : Course (.opening state) acts s) {k other : Nat}
    (hk : (s.owners k).live = true) (hother : (s.owners other).live = true) : other = k := by
  have horder := h.orderly (Stage.orderly_opening False state)
  by_contra hne
  have haway := (horder.of_live hk).2 other hne
  exact Bool.noConfusion (hother.symm.trans haway.1)

end Course

/-! ## A driver in use -/

/-- A loop serves advances: a caller who is idle and asks for steps that can be counted is accepted, and with
the steps that this loop runs then it returns. -/
def Stage.Usable (s : Stage σ α) (k : Nat) : Prop :=
  ∀ caller steps (atBoundary : σ → α × σ), s.scene.calls caller = none →
    max s.scene.bridge.requested s.scene.bridge.completed + steps ≤ counterLimit →
    ∃ n found t, Course s
      (.session (.accepted caller steps atBoundary) :: List.replicate n (.stepped k) ++
        [.session (.returned caller atBoundary found)]) t

namespace Course

variable {s t u : Stage σ α} {acts : List (Act σ α)} {state : σ}

/-- Two courses, the second from where the first ends, are one. -/
theorem append {before after : List (Act σ α)} (h : Course s before t) (h' : Course t after u) :
    Course s (before ++ after) u := by
  induction h with
  | nil => exact h'
  | cons hmove _ ih => exact .cons hmove (ih h')

/-- A live loop runs steps while any are due and the driver is not told to stop. -/
theorem stepped {k n : Nat} (hlive : (s.owners k).live = true) (hdriver : s.scene.bridge.driver = .running)
    (hdue : s.scene.bridge.completed + n ≤ s.scene.bridge.requested) :
    Course s (List.replicate n (.stepped k))
      { s with scene := { s.scene with bridge := s.scene.bridge.drive n } } := by
  induction n generalizing s with
  | zero => exact .nil s
  | succ n ih =>
    have hstep : s.scene.bridge.driverStep? =
        some { s.scene.bridge with
          state := Simulation.step s.scene.bridge.state
          completed := s.scene.bridge.completed + 1 } := if_pos ⟨hdriver, by omega⟩
    have hrest := ih (s := { s with scene := { s.scene with bridge := { s.scene.bridge with
      state := Simulation.step s.scene.bridge.state
      completed := s.scene.bridge.completed + 1 } } }) hlive hdriver (by dsimp only; omega)
    rw [drive, hstep]
    exact .cons (.step hlive (.step hstep)) hrest

/-- A live loop runs the steps that a caller waits for, and the caller returns. -/
theorem serve {k caller steps target : Nat} {atBoundary : σ → α × σ}
    (hlive : (s.owners k).live = true) (hdriver : s.scene.bridge.driver = .running)
    (hcall : s.scene.calls caller = some ⟨steps, target, atBoundary⟩)
    (hcompleted : s.scene.bridge.completed ≤ target) (hrequested : target ≤ s.scene.bridge.requested) :
    ∃ n found t, Course s
      (List.replicate n (.stepped k) ++ [.session (.returned caller atBoundary found)]) t := by
  have hcount : s.scene.bridge.completed + (target - s.scene.bridge.completed) = target := by omega
  have hdue : s.scene.bridge.completed + (target - s.scene.bridge.completed) ≤ s.scene.bridge.requested := by
    omega
  have hreached : (s.scene.bridge.drive (target - s.scene.bridge.completed)).wake target = .reached := by
    rw [wake_eq_reached_iff, drive_of_le hdriver hdue]
    exact Nat.le_of_eq hcount.symm
  exact ⟨_, _, _, (stepped hlive hdriver hdue).append
    (.cons (.session trivial (.return hcall hreached rfl)) (.nil _))⟩

end Course

/-- A live loop serves advances as long as the driver runs. -/
theorem Stage.usable_of_live {s : Stage σ α} {k : Nat} (hlive : (s.owners k).live = true)
    (hdriver : s.scene.bridge.driver = .running) : s.Usable k := by
  intro caller steps atBoundary hidle hcount
  obtain ⟨target, htarget⟩ : ∃ target, max s.scene.bridge.requested s.scene.bridge.completed + steps = target :=
    ⟨_, rfl⟩
  have hcompleted : s.scene.bridge.completed ≤ target := by omega
  have hrequest : s.scene.bridge.request steps =
      .ok (target, { s.scene.bridge with requested := target }) := by
    rw [request, if_neg (not_not.2 hdriver)]
    dsimp only
    rw [if_neg (Nat.not_lt.2 hcount), htarget]
  have haccept := Turn.accept atBoundary hidle hrequest
  obtain ⟨n, found, t, hserve⟩ := Course.serve
    (s := ⟨Scene.put ⟨{ s.scene.bridge with requested := target }, s.scene.calls⟩ caller
      (some ⟨steps, target, atBoundary⟩), s.owners⟩)
    hlive hdriver (Scene.calls_put_self _ _ _) hcompleted (Nat.le_refl target)
  exact ⟨n, found, t, .cons (.session trivial haccept) hserve⟩

/-! ## Between drivers -/

/-- No loop is live, and nobody is starting a driver or giving one up. -/
def Stage.Quiet (s : Stage σ α) : Prop :=
  ∀ k, (s.owners k).live = false ∧ ((s.owners k).tenure = .none ∨ (s.owners k).tenure = .held)

omit [Simulation σ] in
/-- When nothing is going on the bridge is free, unless a call gave up the thread it was refused. -/
theorem Stage.Orderly.of_quiet {s : Stage σ α} {gaveUp : Prop} (h : s.Orderly gaveUp) (hquiet : s.Quiet)
    (hgave : ¬gaveUp) : s.scene.bridge.driver = .stopped := by
  cases hdriver : s.scene.bridge.driver with
  | stopped => rfl
  | running =>
    obtain ⟨k, ⟨-, hcall⟩ | ⟨hlive, -⟩, -⟩ := (orderly_running hdriver).1 h
    · have hcalm := (hquiet k).2
      rcases hcall with hcall | hcall
      · rw [hcall] at hcalm
        exact hcalm.elim nofun nofun
      · rw [hcall] at hcalm
        exact hcalm.elim nofun nofun
    · exact Bool.noConfusion ((hquiet k).1.symm.trans hlive)
  | stopping =>
    rcases (orderly_stopping hdriver).1 h with ⟨k, hlingers, -⟩ | ⟨hgave', -⟩
    · exact Bool.noConfusion ((hquiet k).1.symm.trans hlingers.1)
    · exact absurd hgave' hgave

/-- Once a call has given up the thread it was refused, the driver is never attached again: nobody is left who
could end the stop. -/
theorem Move.stuck {s t : Stage σ α} {a : Act σ α} (h : Move s a t)
    (hdriver : s.scene.bridge.driver = .stopping) (haway : ∀ k, (s.owners k).Away) :
    (t.scene.bridge.driver = .stopping ∧ ∀ k, (t.owners k).Away) ∧ ∀ k, a ≠ .attached k := by
  have htenure {k : Nat} {tenure : Tenure} (hk : (s.owners k).tenure = tenure)
      (hnone : tenure ≠ .none) (hleaving : tenure ≠ .leaving) : False :=
    (haway k).2.elim (hk ▸ hnone) (hk ▸ hleaving)
  have hlive {k : Nat} (hk : (s.owners k).live = true) : False :=
    Bool.noConfusion ((haway k).1.symm.trans hk)
  cases h with
  | attach hfree h => cases hdriver.symm.trans h.driver_of_attached.1
  | reject hfree h =>
    rw [h.eq_of_rejected.1]
    exact ⟨⟨hdriver, haway⟩, nofun⟩
  | grant hk => exact (htenure hk nofun nofun).elim
  | deny hk => exact (htenure hk nofun nofun).elim
  | giveUp hk => exact (htenure hk nofun nofun).elim
  | stop hk => exact (htenure hk nofun nofun).elim
  | join => exact ⟨⟨hdriver, Stage.away_next ⟨rfl, .inl rfl⟩ fun other _ => haway other⟩, nofun⟩
  | step hk => exact (hlive hk).elim
  | wait hk => exact (hlive hk).elim
  | leave hk => exact (hlive hk).elim
  | session he h => exact ⟨⟨(h.driver_of_session he).trans hdriver, haway⟩, nofun⟩

/-- Once the driver is stopping and everybody is away it stays so, and nobody attaches again. -/
theorem Course.stuck {s t : Stage σ α} {acts : List (Act σ α)} (h : Course s acts t)
    (hdriver : s.scene.bridge.driver = .stopping) (haway : ∀ k, (s.owners k).Away) :
    t.scene.bridge.driver = .stopping ∧ ∀ k, .attached k ∉ acts := by
  induction h with
  | nil => exact ⟨hdriver, fun k => List.not_mem_nil⟩
  | cons hmove _ ih =>
    obtain ⟨⟨hdriver', haway'⟩, hnot⟩ := hmove.stuck hdriver haway
    obtain ⟨hlast, hrest⟩ := ih hdriver' haway'
    exact ⟨hlast, fun k => List.not_mem_cons_of_ne_of_not_mem (hnot k).symm (hrest k)⟩

/-! ## Every interleaving -/

/-- In every course from a fresh bridge: at most one loop is live; a call that is rejected changes nothing, and
if the driver runs then, the loop behind it goes on serving advances, or its call still waits for a thread; and
whenever no loop is live and nobody is starting a driver or giving one up, the driver is stopped and the next
call is not rejected, unless some call gave up a thread that it was refused. -/
theorem course_lifecycle {state : σ} {acts : List (Act σ α)} {s : Stage σ α}
    (h : Course (.opening state) acts s) :
    (∀ k other, (s.owners k).live = true → (s.owners other).live = true → other = k) ∧
      (∀ k t, Move s (.rejected k) t → t = s ∧
        (s.scene.bridge.driver = .running → ∃ keeper, t.scene.bridge.driver = .running ∧
          ((t.owners keeper).live = true ∧ t.Usable keeper ∨
            (t.owners keeper).tenure = .attached ∨ (t.owners keeper).tenure = .denied))) ∧
      ((∀ k, .gaveUp k ∉ acts) → s.Quiet →
        s.scene.bridge.driver = .stopped ∧
          s.scene.bridge.attach = .ok { s.scene.bridge with driver := .running }) := by
  have horder := h.orderly (Stage.orderly_opening False state)
  refine ⟨fun k other hk hother => h.live_unique hk hother, fun k t hmove => ?_, fun hgave hquiet => ?_⟩
  · cases hmove with
    | reject hfree hreject =>
      rw [hreject.eq_of_rejected.1]
      refine ⟨rfl, fun hdriver => ?_⟩
      obtain ⟨keeper, hkeeps, -⟩ := (Stage.orderly_running hdriver).1 horder
      refine ⟨keeper, hdriver, ?_⟩
      rcases hkeeps with ⟨-, hcall⟩ | ⟨hlive, -⟩
      · exact .inr hcall
      · exact .inl ⟨hlive, Stage.usable_of_live hlive hdriver⟩
  · have hnot : ¬(False ∨ ∃ k, Act.gaveUp k ∈ acts) := by
      rintro (hfalse | ⟨k, hk⟩)
      · exact hfalse
      · exact hgave k hk
    have hstopped := horder.of_quiet hquiet hnot
    exact ⟨hstopped, if_pos hstopped⟩

/-- A handle is given up before its loop has run once, and a second call comes too early. When the thread has
ended, the bridge takes the next driver. -/
theorem course_lifecycle_early_stop :
    let w := World.empty ⟨0x3FD999999999999A⟩
    let acts : List (Act World Double) :=
      [.attached 0, .granted 0, .rejected 1, .stopped 0, .left 0, .joined 0]
    (∀ k, .gaveUp k ∉ acts) ∧ ∃ s : Stage World Double, Course (.opening w) acts s ∧ s.Quiet ∧
      s.scene.bridge.driver = .stopped ∧
        s.scene.bridge.attach = .ok { s.scene.bridge with driver := .running } := by
  intro w acts
  have hgave : ∀ k, .gaveUp k ∉ acts := by simp [acts]
  have hcourse : ∃ s : Stage World Double, Course (.opening w) acts s ∧
      ∀ k, s.owners k = ⟨.none, false⟩ := by
    apply Exists.intro
    apply And.intro
    · apply Course.cons (.attach rfl (.attach rfl))
      apply Course.cons (.grant rfl)
      apply Course.cons (.reject rfl (.reject rfl))
      apply Course.cons (.stop rfl .stop)
      apply Course.cons (.leave rfl (.leave rfl))
      apply Course.cons (.join rfl)
      apply Course.nil
    · simp [Stage.next, Stage.opening]
  obtain ⟨s, hcourse, howners⟩ := hcourse
  have hquiet : s.Quiet := fun k => by rw [howners k]; exact ⟨rfl, .inl rfl⟩
  exact ⟨hgave, s, hcourse, hquiet, (course_lifecycle hcourse).2.2 hgave hquiet⟩

/-- The first call's thread is refused. Nothing is going on then and no loop was ever live, but the driver is not
stopped, and the next call is rejected as if one were attached; so is every call after it. -/
theorem exists_quiet_stopping :
    let w := World.empty ⟨0x3FD999999999999A⟩
    ∃ s : Stage World Double, Course (.opening w) [.attached 0, .denied 0, .gaveUp 0] s ∧ s.Quiet ∧
      s.scene.bridge.driver = .stopping ∧
      s.scene.bridge.attach = .error (.config .driverAttached) ∧
      ∀ acts t, Course s acts t → ∀ k, .attached k ∉ acts := by
  intro w
  have hcourse : ∃ s : Stage World Double,
      Course (.opening w) [.attached 0, .denied 0, .gaveUp 0] s ∧
        s.scene.bridge = ⟨w, 0, 0, .stopping⟩ ∧ ∀ k, s.owners k = ⟨.none, false⟩ := by
    apply Exists.intro
    apply And.intro
    · apply Course.cons (.attach rfl (.attach rfl))
      apply Course.cons (.deny rfl)
      apply Course.cons (.giveUp rfl .stop)
      apply Course.nil
    · exact ⟨rfl, by simp [Stage.next, Stage.opening]⟩
  obtain ⟨s, hcourse, hbridge, howners⟩ := hcourse
  have hquiet : s.Quiet := fun k => by rw [howners k]; exact ⟨rfl, .inl rfl⟩
  have haway : ∀ k, (s.owners k).Away := fun k => by rw [howners k]; exact ⟨rfl, .inl rfl⟩
  have hdriver : s.scene.bridge.driver = .stopping := by rw [hbridge]
  exact ⟨s, hcourse, hquiet, hdriver, by rw [hbridge]; rfl,
    fun acts t hafter => (hafter.stuck hdriver haway).2⟩

end PedestrianControl.Bridge
