import Mathlib.Data.List.Forall2
import PedestrianControl.Proofs.Routing.Answers
import PedestrianControl.Session

/-!
# Routing many commands

A session carries out the commands of a frame up to and including the first `close`. That is the same as
routing just these commands one by one (`Router.routeAll_eq`), and one batch after another is the same as
both together (`Router.routeEach_append`). The responses answer the commands one for one
(`Router.answers_routeEach`).
-/

namespace PedestrianControl

namespace Command

/-- The command that ends a session. -/
def isClose : Command → Bool
  | close => true
  | _ => false

/-- The commands up to and including the first that ends the session. -/
def upToClose : List Command → List Command
  | [] => []
  | c :: rest => if c.isClose then [c] else c :: upToClose rest

/-- Commands are not sent with the opcodes of replies. -/
theorem kind_ne_response (c : Command) : c.kind ≠ .response := by
  cases c <;> exact Category.noConfusion

/-- Some command ends the session exactly if one is a `close`. -/
theorem any_isClose_iff {cs : List Command} : cs.any isClose = true ↔ .close ∈ cs := by
  rw [List.any_eq_true]
  constructor
  · rintro ⟨c, hc, hclose⟩
    cases c with
    | close => exact hc
    | _ => cases hclose
  · exact fun h => ⟨.close, h, rfl⟩

/-- The commands up to the first close are among the commands. -/
theorem mem_of_mem_upToClose {c : Command} {cs : List Command} (h : c ∈ upToClose cs) : c ∈ cs := by
  induction cs with
  | nil => exact h
  | cons first rest ih =>
    rw [upToClose] at h
    split at h
    · exact List.mem_singleton.1 h ▸ List.mem_cons_self
    · rcases List.mem_cons.1 h with rfl | h
      · exact List.mem_cons_self
      · exact List.mem_cons_of_mem first (ih h)

/-- A batch with a command in it has one up to its first close. -/
theorem upToClose_ne_nil {cs : List Command} (h : cs ≠ []) : upToClose cs ≠ [] := by
  cases cs with
  | nil => exact absurd rfl h
  | cons first rest =>
    rw [upToClose]
    split <;> exact List.cons_ne_nil _ _

end Command

namespace Router

variable {σ : Type} [Simulation σ] (r : Router σ)

/-- Routes commands one by one. -/
def routeEach : List Command → Subscriptions → Shared σ → List Response × Subscriptions × Shared σ
  | [], subs, shared => ([], subs, shared)
  | c :: rest, subs, shared =>
    let routed := r.route c subs shared
    let after := routeEach rest routed.subscriptions routed.shared
    (routed.response :: after.1, after.2)

/-- Only a `close` ends the session. -/
theorem closes_route (c : Command) (subs : Subscriptions) (shared : Shared σ) :
    (r.route c subs shared).closes = c.isClose := by
  cases c with
  | load args => cases args <;> rfl
  | _ => rfl

/-- What a session does with the commands of a frame, in terms of single commands. -/
theorem routeAll_eq (cs : List Command) (subs : Subscriptions) (shared : Shared σ) :
    r.routeAll cs subs shared =
      let done := r.routeEach (Command.upToClose cs) subs shared
      ⟨done.1, cs.any Command.isClose, done.2.1, done.2.2⟩ := by
  induction cs generalizing subs shared with
  | nil => rfl
  | cons c rest ih =>
    rw [routeAll, Command.upToClose, List.any_cons]
    dsimp only
    rw [closes_route]
    cases c.isClose with
    | true => rfl
    | false =>
      rw [if_neg Bool.false_ne_true, if_neg Bool.false_ne_true, ih]
      rfl

/-- One batch after another is the two batches together. -/
theorem routeEach_append (cs ds : List Command) (subs : Subscriptions) (shared : Shared σ) :
    r.routeEach (cs ++ ds) subs shared =
      let first := r.routeEach cs subs shared
      let after := r.routeEach ds first.2.1 first.2.2
      (first.1 ++ after.1, after.2) := by
  induction cs generalizing subs shared with
  | nil => rfl
  | cons c rest ih =>
    rw [List.cons_append, routeEach, ih]
    rfl

variable {r}

/-- The responses answer the commands one for one and in order. -/
theorem answers_routeEach (h : r.registry.Sound) {cs : List Command} (hcs : ∀ c ∈ cs, c.WellKinded)
    (subs : Subscriptions) (shared : Shared σ) :
    List.Forall₂ Response.Answers (r.routeEach cs subs shared).1 cs := by
  induction cs generalizing subs shared with
  | nil => exact .nil
  | cons c rest ih =>
    obtain ⟨hc, hrest⟩ := List.forall_mem_cons.1 hcs
    exact .cons (route_answers shared h hc) (ih hrest _ _)

/-- A batch keeps the subscriptions within their counts. -/
theorem varsFit_routeEach {cs : List Command} (hcs : ∀ c ∈ cs, c.VarsFit) {subs : Subscriptions}
    (hsubs : subs.VarsFit) (shared : Shared σ) : (r.routeEach cs subs shared).2.1.VarsFit := by
  induction cs generalizing subs shared with
  | nil => exact hsubs
  | cons c rest ih =>
    obtain ⟨hc, hrest⟩ := List.forall_mem_cons.1 hcs
    exact ih hrest (varsFit_route shared hsubs hc) _

/-- Every response to a batch can be written, if its subscriptions and the earlier ones fit. -/
theorem countsFit_routeEach (h : r.registry.Sound) {cs : List Command} (hcs : ∀ c ∈ cs, c.VarsFit)
    {subs : Subscriptions} (hsubs : subs.VarsFit) (shared : Shared σ) :
    ∀ response ∈ (r.routeEach cs subs shared).1, response.body.CountsFit := by
  induction cs generalizing subs shared with
  | nil => exact List.forall_mem_nil _
  | cons c rest ih =>
    obtain ⟨hc, hrest⟩ := List.forall_mem_cons.1 hcs
    exact List.forall_mem_cons.2 ⟨countsFit_route shared h hsubs hc,
      ih hrest (varsFit_route shared hsubs hc) _⟩

/-- Every command of a batch is answered, once. -/
theorem length_routeEach (cs : List Command) (subs : Subscriptions) (shared : Shared σ) :
    (r.routeEach cs subs shared).1.length = cs.length := by
  induction cs generalizing subs shared with
  | nil => rfl
  | cons c rest ih => exact congrArg (· + 1) (ih _ _)

/-- Each response of a batch is the response to one of its commands. -/
theorem mem_routeEach {cs : List Command} {subs : Subscriptions} {shared : Shared σ}
    {response : Response} (h : response ∈ (r.routeEach cs subs shared).1) :
    ∃ c ∈ cs, ∃ subs shared, response = (r.route c subs shared).response := by
  induction cs generalizing subs shared with
  | nil => cases h
  | cons c rest ih =>
    rcases List.mem_cons.1 h with rfl | h
    · exact ⟨c, List.mem_cons_self, subs, shared, rfl⟩
    · obtain ⟨d, hd, found⟩ := ih h
      exact ⟨d, List.mem_cons_of_mem c hd, found⟩

/-- What the responses of a batch were encoded as is parsed as these responses. -/
theorem parse_of_encodeAll_routeEach (h : r.registry.Sound) {cs : List Command}
    (hcs : ∀ c ∈ cs, c.WellKinded) {subs : Subscriptions} {shared : Shared σ} {payload : Bytes}
    (hencode : Response.encodeAll (r.routeEach cs subs shared).1 = .ok payload)
    (hlen : payload.length < 2 ^ 31) :
    Response.parse payload = .ok (r.routeEach cs subs shared).1 := by
  refine Response.parse_of_encodeAll ?_ ?_ hencode hlen
  · intro response hresponse
    obtain ⟨c, hc, subs, shared, rfl⟩ := mem_routeEach hresponse
    rw [(route_answers shared h (hcs c hc)).opcode_eq, show c.opcode.category = c.kind from hcs c hc]
    exact c.kind_ne_response
  · intro response hresponse
    obtain ⟨c, hc, subs, shared, rfl⟩ := mem_routeEach hresponse
    exact (route_answers shared h (hcs c hc)).bodyFollows

/-- Where no subscription has too many variables, the responses of a batch can be encoded. -/
theorem exists_encodeAll_routeEach (h : r.registry.Sound) {cs : List Command}
    (hcs : ∀ c ∈ cs, c.VarsFit) {subs : Subscriptions} (hsubs : subs.VarsFit) (shared : Shared σ) :
    ∃ payload, Response.encodeAll (r.routeEach cs subs shared).1 = .ok payload :=
  ⟨_, Response.encodeAll_of_countsFit (countsFit_routeEach h hcs hsubs shared)⟩

end Router

end PedestrianControl
