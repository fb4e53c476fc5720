import PedestrianControl.Proofs.Api.Surface
import PedestrianControl.Router

/-!
# What the router answers

Every response of the router answers its command (`Router.route_answers`): its status has the command's
opcode and its body is one that can follow this status. This holds on every path, of success or failure,
as long as the surfaces are sound.

Whether a response can be written is a matter of its counts. They fit if no subscription asks for more than
255 variables; the router keeps this invariant (`Router.varsFit_route`), since every subscription it
registers came in a command, and under it every response can be written (`Router.countsFit_route`).
-/

namespace PedestrianControl

variable {σ : Type}

/-! ## Answers -/

/-- A response to a command as the command's sender expects it. -/
structure Response.Answers (r : Response) (c : Command) : Prop where
  opcode_eq : r.status.opcode = c.opcode
  bodyFollows : r.body.Follows r.status

namespace Response

variable {c : Command}

/-- A response of failure without a body answers its command. -/
theorem answers_of_failed {result : ResultCode} (h : result ≠ .ok) (description : String) :
    Answers ⟨⟨c.opcode, result, description⟩, .none⟩ c :=
  ⟨rfl, fun hok => absurd hok h⟩

/-- An error answers its command. -/
theorem answers_error (description : String) : (error c.opcode description).Answers c :=
  answers_of_failed (by decide) description

/-- The response that a command is not implemented answers it. -/
theorem answers_notImplemented (description : String) :
    (notImplemented c.opcode description).Answers c :=
  answers_of_failed (by decide) description

/-- An error of a handler, whatever its kind, answers its command. -/
theorem answers_handlerError (e : HandlerError) : (e.response c.opcode).Answers c := by
  refine answers_of_failed ?_ e.message
  cases e <;> exact ResultCode.noConfusion

/-- A bare success answers every command that expects no version and no step. -/
theorem answers_ok (hv : c.opcode ≠ .getVersion) (hs : c.opcode ≠ .simStep) :
    (ok c.opcode).Answers c :=
  ⟨rfl, fun _ => ⟨hv, hs⟩⟩

end Response

/-! ## Gets and sets -/

namespace Registry

variable {registry : Registry σ}

/-- A get is answered as its sender expects, on every path through the registry. -/
theorem answers_dispatch_get (h : registry.Sound) {o : Opcode} (ho : o.category = .get) (var : UInt8)
    (element : String) (state : σ) :
    (registry.dispatch (.get o var element) state).1.Answers (.get o var element) := by
  rw [dispatch, Command.opcode]
  cases hs : registry.surface? o with
  | none => exact Response.answers_notImplemented (c := .get o var element) _
  | some s =>
    show (s.answerGet o var element state).1.Answers _
    rw [Surface.answerGet_apply]
    rcases s.call o ⟨var, element, none⟩ state with ⟨e | _ | v, after⟩
    · exact Response.answers_handlerError (c := .get o var element) e
    · exact Response.answers_handlerError (c := .get o var element) (Surface.noValue var)
    · exact ⟨rfl, rfl, ho, (h.surface hs).getResponse_category⟩

/-- A set is answered as its sender expects, on every path through the registry. -/
theorem answers_dispatch_set {o : Opcode} (ho : o.category = .set) (var : UInt8) (element : String)
    (value : TypedValue) (state : σ) :
    (registry.dispatch (.set o var element value) state).1.Answers (.set o var element value) := by
  obtain ⟨hv, hs⟩ := Opcode.ne_of_category (ho.trans_ne Category.noConfusion)
  rw [dispatch, Command.opcode]
  cases registry.surface? o with
  | none => exact Response.answers_notImplemented (c := .set o var element value) _
  | some s =>
    show (s.answerSet o var element value state).1.Answers _
    rw [Surface.answerSet_apply]
    rcases s.call o ⟨var, element, some value⟩ state with ⟨e | v, after⟩
    · exact Response.answers_handlerError (c := .set o var element value) e
    · exact Response.answers_ok (c := .set o var element value) hv hs

/-- The value that a get reports comes from a handler, and so it can be written. -/
theorem countsFit_dispatch (h : registry.Sound) (c : Command) (state : σ) :
    (registry.dispatch c state).1.body.CountsFit := by
  rw [dispatch]
  cases hs : registry.surface? c.opcode with
  | none => trivial
  | some s =>
    cases c with
    | get o var element =>
      show (s.answerGet o var element state).1.body.CountsFit
      rw [Surface.answerGet_apply]
      rcases hcall : s.call o ⟨var, element, none⟩ state with ⟨e | _ | v, after⟩
      · trivial
      · trivial
      · exact (h.surface hs).call_polygonsFit (congrArg Prod.fst hcall)
    | set o var element value =>
      show (s.answerSet o var element value state).1.body.CountsFit
      rw [Surface.answerSet_apply]
      rcases s.call o ⟨var, element, some value⟩ state with ⟨e | v, after⟩ <;> trivial
    | _ => trivial

end Registry

/-! ## Subscriptions -/

namespace Subscriptions

/-- No subscription has more variables than a count of one byte can tell. -/
def VarsFit (subs : Subscriptions) : Prop := ∀ s ∈ subs.entries, s.vars.length ≤ 255

/-- No subscription of the empty list has too many variables. -/
theorem varsFit_empty : VarsFit empty := nofun

/-- What is in a list with one subscription replaced was in it before, or is the new one. -/
theorem mem_replaceIn {s t : Subscription} {old new : List Subscription}
    (h : replaceIn s old = some new) (ht : t ∈ new) : t = s ∨ t ∈ old := by
  induction old generalizing new with
  | nil => cases h
  | cons first rest ih =>
    rw [replaceIn] at h
    split at h
    · cases h
      exact (List.mem_cons.1 ht).imp_right (List.mem_cons_of_mem first)
    · obtain ⟨replaced, hrest, rfl⟩ := Option.map_eq_some_iff.1 h
      rcases List.mem_cons.1 ht with rfl | ht
      · exact .inr List.mem_cons_self
      · exact (ih hrest ht).imp_right (List.mem_cons_of_mem first)

/-- Registering adds no other subscription than the one given. -/
theorem mem_register {subs : Subscriptions} {s t : Subscription}
    (ht : t ∈ (subs.register s).2.entries) : t = s ∨ t ∈ subs.entries := by
  rw [register] at ht
  cases hreplace : replaceIn s subs.entries with
  | some new =>
    rw [hreplace] at ht
    exact mem_replaceIn hreplace ht
  | none =>
    rw [hreplace] at ht
    exact (List.mem_append.1 ht).symm.imp_left List.mem_singleton.1

/-- Registering a subscription of at most 255 variables keeps the counts within one byte. -/
theorem VarsFit.register {subs : Subscriptions} {s : Subscription} (h : subs.VarsFit)
    (hs : s.vars.length ≤ 255) : (subs.register s).2.VarsFit := by
  intro t ht
  rcases mem_register ht with rfl | ht
  · exact hs
  · exact h t ht

/-- Removing a subscription keeps the counts within one byte. -/
theorem VarsFit.remove {subs : Subscriptions} (h : subs.VarsFit) (o : Opcode) (element : String) :
    (subs.remove o element).2.VarsFit :=
  fun s hs => h s (List.mem_filter.1 hs).1

/-- Dropping the expired subscriptions keeps the counts within one byte. -/
theorem VarsFit.unexpired {subs : Subscriptions} (h : subs.VarsFit) (time : Double) :
    (subs.unexpired time).VarsFit :=
  fun s hs => h s (List.mem_filter.1 hs).1

/-- A subscription with a surface adds its result, and the next one is read in the state that it leaves. -/
theorem results_cons_of_some {registry : Registry σ} {s : Subscription} {surface : Surface σ}
    (h : registry.surface? s.opcode = some surface) (rest : List Subscription) (state : σ) :
    results registry (s :: rest) state =
      let first := surface.subscriptionResult s.element s.vars state
      let others := results registry rest first.2
      (first.1 :: others.1, others.2) := by
  rw [results, h]
  rfl

/-- A subscription without a surface adds nothing. -/
theorem results_cons_of_none {registry : Registry σ} {s : Subscription}
    (h : registry.surface? s.opcode = none) (rest : List Subscription) (state : σ) :
    results registry (s :: rest) state = results registry rest state := by
  rw [results, h]

/-- Each result is that of one of the subscriptions, read in some state on the way. -/
theorem mem_results {registry : Registry σ} {ss : List Subscription} {state : σ}
    {result : SubscriptionResult} (h : result ∈ (results registry ss state).1) :
    ∃ s ∈ ss, ∃ surface, registry.surface? s.opcode = some surface ∧
      ∃ between, result = (surface.subscriptionResult s.element s.vars between).1 := by
  induction ss generalizing state with
  | nil => cases h
  | cons s rest ih =>
    cases hs : registry.surface? s.opcode with
    | none =>
      rw [results_cons_of_none hs] at h
      obtain ⟨t, ht, found⟩ := ih h
      exact ⟨t, List.mem_cons_of_mem s ht, found⟩
    | some surface =>
      rw [results_cons_of_some hs] at h
      rcases List.mem_cons.1 h with rfl | h
      · exact ⟨s, List.mem_cons_self, surface, hs, state, rfl⟩
      · obtain ⟨t, ht, found⟩ := ih h
        exact ⟨t, List.mem_cons_of_mem s ht, found⟩

variable [Simulation σ]

/-- Each result of a step is that of one of the subscriptions kept, read in some state on the way. -/
theorem mem_evaluate {registry : Registry σ} {subs : Subscriptions} {state : σ}
    {result : SubscriptionResult} (h : result ∈ (subs.evaluate registry state).1) :
    ∃ s ∈ (subs.evaluate registry state).2.1.entries, ∃ surface,
      registry.surface? s.opcode = some surface ∧
        ∃ between, result = (surface.subscriptionResult s.element s.vars between).1 := by
  -- the results are those of the active ones among the subscriptions kept
  have hresults : result ∈ (results registry
      ((subs.unexpired (Simulation.time state)).entries.filter fun s =>
        s.isActive (Simulation.time state)) state).1 := h
  obtain ⟨s, hs, found⟩ := mem_results hresults
  exact ⟨s, (List.mem_filter.1 hs).1, found⟩

/-- The subscriptions that a step keeps fit as the earlier ones did. -/
theorem VarsFit.evaluate {subs : Subscriptions} (h : subs.VarsFit) (registry : Registry σ) (state : σ) :
    (subs.evaluate registry state).2.1.VarsFit :=
  h.unexpired (Simulation.time state)

end Subscriptions

/-! ## Steps -/

/-- An advance that succeeds gives what is found in the state at its boundary. -/
theorem Bridge.eq_of_advance_ok [Simulation σ] {α : Type} {steps : Nat} {atBoundary : σ → α × σ}
    {b b' : Bridge σ} {a : α} (h : b.advance steps atBoundary = (.ok a, b')) :
    ∃ state, a = (atBoundary state).1 := by
  rw [advance] at h
  split at h
  · cases h
  · dsimp only at h
    split at h
    · cases h
      exact ⟨_, rfl⟩
    · cases h

namespace Router

variable (r : Router σ) (subs : Subscriptions) (shared : Shared σ)

/-- A subscription nobody serves is refused, one without variables removes another, and any other is
registered and answered with its result in the state now. -/
theorem subscribe_cases (s : Subscription) :
    (∃ description, (r.subscribe s subs shared).1 = .notImplemented s.opcode description ∧
      (r.subscribe s subs shared).2.1 = subs) ∨
    (((r.subscribe s subs shared).1 = .ok s.opcode ∨
        ∃ description, (r.subscribe s subs shared).1 = .error s.opcode description) ∧
      (r.subscribe s subs shared).2.1 = (subs.remove s.opcode s.element).2) ∨
    ∃ surface, r.registry.surface? s.opcode = some surface ∧
      (r.subscribe s subs shared).1 = .withBody s.opcode (.subscription
        (surface.subscriptionResult s.element s.vars shared.bridge.state).1) ∧
      (r.subscribe s subs shared).2.1 = (subs.register s).2 := by
  rw [subscribe]
  cases hsurface : r.registry.surface? s.opcode with
  | none => exact .inl ⟨_, rfl, rfl⟩
  | some surface =>
    dsimp only
    split
    · refine .inr (.inl ?_)
      rcases subs.remove s.opcode s.element with ⟨_ | _, kept⟩
      · exact ⟨.inr ⟨_, rfl⟩, rfl⟩
      · exact ⟨.inl rfl, rfl⟩
    · exact .inr (.inr ⟨surface, rfl, rfl, rfl⟩)

variable [Simulation σ]

/-- A step fails and leaves the subscriptions, or answers with the results of the active ones and drops
those whose span is over. -/
theorem simStep_cases (target : Double) :
    (∃ description, (r.simStep target subs shared).1 = .error .simStep description ∧
      (r.simStep target subs shared).2.1 = subs) ∨
    ∃ state, (r.simStep target subs shared).1 = .simStep (subs.evaluate r.registry state).1 ∧
      (r.simStep target subs shared).2.1 = (subs.evaluate r.registry state).2.1 := by
  rw [simStep]
  dsimp only
  split
  · exact .inl ⟨_, rfl, rfl⟩
  · split
    · rename_i h
      obtain ⟨state, hfound⟩ := Bridge.eq_of_advance_ok h
      cases hfound
      exact .inr ⟨state, rfl, rfl⟩
    · exact .inl ⟨_, rfl, rfl⟩

/-! ## One command -/

/-- What acknowledges a command is a status without a body. -/
theorem answers_acknowledge {c : Command} (hv : c.opcode ≠ .getVersion) (hs : c.opcode ≠ .simStep)
    (outcome : Except Error Unit) : (acknowledge c.opcode outcome).Answers c := by
  cases outcome with
  | ok _ => exact Response.answers_ok hv hs
  | error e => exact Response.answers_error e.message

variable {r subs}

/-- Every command of a fitting kind is answered, whatever becomes of it. -/
theorem route_answers (h : r.registry.Sound) {c : Command} (hc : c.WellKinded) :
    (r.route c subs shared).response.Answers c := by
  -- only four kinds of command are ever answered with a body
  cases c with
  | getVersion => exact ⟨rfl, rfl, rfl⟩
  | close => exact Response.answers_ok (c := .close) Opcode.noConfusion Opcode.noConfusion
  | load args =>
    cases args with
    | nil => exact Response.answers_error (c := .load []) _
    | cons path rest =>
      exact answers_acknowledge (c := .load (path :: rest)) Opcode.noConfusion Opcode.noConfusion _
  | sendFile name content =>
    exact answers_acknowledge (c := .sendFile name content) Opcode.noConfusion Opcode.noConfusion _
  | simStep target =>
    show (r.simStep target subs shared).1.Answers _
    rcases simStep_cases r subs shared target with ⟨_, hresponse, -⟩ | ⟨state, hresponse, -⟩
    · rw [hresponse]
      exact Response.answers_error (c := .simStep target) _
    · rw [hresponse]
      refine ⟨rfl, rfl, rfl, fun result hresult => ?_⟩
      obtain ⟨s, -, surface, hs, between, rfl⟩ := Subscriptions.mem_evaluate hresult
      exact (h.surface hs).subscribeResponse_category
  | get o var element => exact Registry.answers_dispatch_get h hc var element shared.bridge.state
  | set o var element value =>
    exact Registry.answers_dispatch_set hc var element value shared.bridge.state
  | subscribe s =>
    have ho : s.opcode.category = .subscribe := hc
    obtain ⟨hv, hstep⟩ := Opcode.ne_of_category (ho.trans_ne Category.noConfusion)
    show (r.subscribe s subs shared).1.Answers _
    rcases subscribe_cases r subs shared s with
      ⟨_, hresponse, -⟩ | ⟨hresponse | ⟨_, hresponse⟩, -⟩ | ⟨surface, hs, hresponse, -⟩
    · rw [hresponse]
      exact Response.answers_notImplemented (c := .subscribe s) _
    · rw [hresponse]
      exact Response.answers_ok (c := .subscribe s) hv hstep
    · rw [hresponse]
      exact Response.answers_error (c := .subscribe s) _
    · rw [hresponse]
      exact ⟨rfl, rfl, ho, (h.surface hs).subscribeResponse_category⟩

/-- The subscriptions keep few enough variables if a command brings few enough. -/
theorem varsFit_route {c : Command} (hvars : subs.VarsFit) (hc : c.VarsFit) :
    (r.route c subs shared).subscriptions.VarsFit := by
  cases c with
  | simStep target =>
    show (r.simStep target subs shared).2.1.VarsFit
    rcases simStep_cases r subs shared target with ⟨_, -, hkept⟩ | ⟨state, -, hkept⟩
    · rwa [hkept]
    · rw [hkept]
      exact hvars.evaluate r.registry state
  | subscribe s =>
    show (r.subscribe s subs shared).2.1.VarsFit
    rcases subscribe_cases r subs shared s with ⟨_, -, hkept⟩ | ⟨-, hkept⟩ | ⟨_, -, -, hkept⟩
    · rwa [hkept]
    · rw [hkept]
      exact hvars.remove s.opcode s.element
    · rw [hkept]
      exact hvars.register (hc s rfl)
  | load args => cases args <;> exact hvars
  | _ => exact hvars

/-- Where no subscription has too many variables, every response can be written. -/
theorem countsFit_route (h : r.registry.Sound) {c : Command} (hvars : subs.VarsFit) (hc : c.VarsFit) :
    (r.route c subs shared).response.body.CountsFit := by
  cases c with
  | getVersion => trivial
  | close => trivial
  | load args =>
    cases args with
    | nil => trivial
    | cons path rest =>
      show (acknowledge .load (loadFile path shared).1).body.CountsFit
      cases (loadFile path shared).1 <;> trivial
  | sendFile name content =>
    show (acknowledge .sendFile (r.storeAndLoad name content shared).1).body.CountsFit
    cases (r.storeAndLoad name content shared).1 <;> trivial
  | simStep target =>
    show (r.simStep target subs shared).1.body.CountsFit
    rcases simStep_cases r subs shared target with ⟨_, hresponse, -⟩ | ⟨state, hresponse, -⟩
    · rw [hresponse]
      trivial
    · rw [hresponse]
      intro result hresult
      obtain ⟨s, hs, surface, hsurface, between, rfl⟩ := Subscriptions.mem_evaluate hresult
      exact (h.surface hsurface).subscriptionResult_countsFit s.element
        (hvars.evaluate r.registry state s hs)
  | get o var element => exact Registry.countsFit_dispatch h _ shared.bridge.state
  | set o var element value => exact Registry.countsFit_dispatch h _ shared.bridge.state
  | subscribe s =>
    show (r.subscribe s subs shared).1.body.CountsFit
    rcases subscribe_cases r subs shared s with
      ⟨_, hresponse, -⟩ | ⟨hresponse | ⟨_, hresponse⟩, -⟩ | ⟨surface, hs, hresponse, -⟩
    · rw [hresponse]
      trivial
    · rw [hresponse]
      trivial
    · rw [hresponse]
      trivial
    · rw [hresponse]
      exact (h.surface hs).subscriptionResult_countsFit s.element (hc s rfl)

end Router

end PedestrianControl
