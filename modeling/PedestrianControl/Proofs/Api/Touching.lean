import PedestrianControl.Proofs.Api.Named
import PedestrianControl.Proofs.Routing.Failure
import PedestrianControl.Proofs.Routing.Watching
import PedestrianControl.Proofs.World.Written

/-!
# What gets and sets touch

Three sets are served: of a speed, of a position and of the length of a step. Which of them a command is, and
what the world is afterwards, is `World.Sets`: the one value is replaced by the value of the command and all
else is as it was. The server grants exactly these sets and carries them out, a set that is refused and every
get leave the world alone, and what nothing is bound to is not implemented (`World.dispatch_touches`).
-/

namespace PedestrianControl

namespace World

variable {w after : World}

/-- The pedestrian of an identifier is changed, and nothing else in the world is. -/
structure ChangesOnly (w after : World) (id : Int32) (f : Pedestrian → Pedestrian) : Prop where
  time : after.time = w.time
  stepLength : after.stepLength = w.stepLength
  scenario : after.scenario = w.scenario
  ids : after.crowd.ids = w.crowd.ids
  named : after.crowd.find? id = (w.crowd.find? id).map f
  others : ∀ other, other ≠ id → after.crowd.find? other = w.crowd.find? other

/-- A change of one pedestrian changes nothing else of the world. -/
theorem changesOnly_modify (w : World) (id : Int32) (f : Pedestrian → Pedestrian)
    (keeps : ∀ p, (f p).id = p.id) :
    w.ChangesOnly { w with crowd := w.crowd.modify id f keeps } id f where
  time := rfl
  stepLength := rfl
  scenario := rfl
  ids := Crowd.ids_modify keeps
  named := Crowd.find?_modify_self keeps
  others _ h := Crowd.find?_modify_of_ne keeps h

/-- A command is a set that is served, and the second world is what it makes of the first. -/
inductive Sets (w : World) : Command → World → Prop
  /-- The speed of the member that the element is a spelling of, to a speed that is not negative. -/
  | speed {element : String} {speed : Double} {p : Pedestrian} {after : World} (hp : p ∈ w.crowd.members)
      (hid : Decimal.int32? element.toList = some p.id) (hspeed : speed.isAdmissibleSpeed = true)
      (h : w.ChangesOnly after p.id ({ · with speed })) :
      Sets w (.set .setPerson PersonVariable.speed.code element (.double speed)) after
  /-- The position of the member that the element is a spelling of. -/
  | position {element : String} {position : Vec2} {p : Pedestrian} {after : World} (hp : p ∈ w.crowd.members)
      (hid : Decimal.int32? element.toList = some p.id) (h : w.ChangesOnly after p.id ({ · with position })) :
      Sets w (.set .setPerson PersonVariable.pos2d.code element (.pos2d position)) after
  /-- The length of a step, to one that is positive, whatever the element. -/
  | stepLength {element : String} {seconds : Double} (h : seconds.isPositive = true) :
      Sets w (.set .setSimulation SimulationVariable.deltaT.code element (.double seconds))
        { w with stepLength := seconds }

end World

/-! ## Sets at the server -/

namespace World

variable {w after : World} {c : Command} {o : Opcode} {var : UInt8} {element : String} {v : TypedValue}

/-- Every set that something is bound to puts a new world in place of the old one, and only as `Sets` has it. -/
theorem exists_change_of_binding : ∀ s ∈ Registry.standard.surfaces, ∀ b ∈ s.bindings,
    b.opcode.category = .set → ∃ change, b.handler = .changing change ∧ ∀ {element v w after},
      change ⟨b.var, element, some v⟩ w = .ok after → w.Sets (.set b.opcode b.var element v) after := by
  -- the tables are gone through in order; what is bound to an opcode for gets is no set
  have hperson {P : Prop} (ho : Person.opcodes.get.category = .set) : P := Category.noConfusion ho
  have hclock {P : Prop} (ho : Clock.opcodes.get.category = .set) : P := Category.noConfusion ho
  simp only [Registry.standard, List.forall_mem_cons, Person.surface, Clock.surface]
  refine ⟨⟨hperson, hperson, hperson, hperson, hperson, hperson, hperson, hperson, hperson, hperson, ?speed,
    ?position, List.forall_mem_nil _⟩, ⟨hclock, hclock, hclock, ?stepLength, List.forall_mem_nil _⟩,
    List.forall_mem_nil _⟩
  case speed =>
    refine fun _ => ⟨Person.setSpeed, rfl, fun h => ?_⟩
    obtain ⟨speed, p, hvalue, hspeed, hnamed, rfl⟩ := Person.setSpeed_eq_ok_iff.1 h
    cases hvalue
    obtain ⟨hp, hid⟩ := Person.named?_eq_some_iff.1 hnamed
    exact .speed hp hid hspeed (changesOnly_modify ..)
  case position =>
    refine fun _ => ⟨Person.setPosition, rfl, fun h => ?_⟩
    obtain ⟨position, p, hvalue, hnamed, rfl⟩ := Person.setPosition_eq_ok_iff.1 h
    cases hvalue
    obtain ⟨hp, hid⟩ := Person.named?_eq_some_iff.1 hnamed
    exact .position hp hid (changesOnly_modify ..)
  case stepLength =>
    refine fun _ => ⟨Clock.setDeltaT, rfl, fun h => ?_⟩
    obtain ⟨seconds, hvalue, hpositive, rfl⟩ := Clock.setDeltaT_eq_ok_iff.1 h
    cases hvalue
    exact .stepLength hpositive

/-- A set that is answered with success is one of the three that are served, and did what that one does. -/
theorem sets_of_dispatch_ok (ho : o.category = .set)
    (hok : (Registry.standard.dispatch (.set o var element v) w).1.status.result = .ok) :
    w.Sets (.set o var element v) (Registry.standard.dispatch (.set o var element v) w).2 := by
  by_cases hbound : ∀ s ∈ Registry.standard.surfaces, ∀ b ∈ s.bindings, ¬(b.opcode = o ∧ b.var = var)
  · obtain ⟨description, hdispatch⟩ := Registry.dispatch_of_unbound Registry.standard
      (c := .set o var element v) rfl hbound w
    rw [hdispatch] at hok
    cases hok
  · push Not at hbound
    obtain ⟨s, hs, b, hb, rfl, rfl⟩ := hbound
    obtain ⟨change, hhandler, hchange⟩ := exists_change_of_binding s hs b hb ho
    obtain ⟨o, var, handler⟩ := b
    subst hhandler
    rw [Registry.dispatch_set_of_changing Registry.build_standard hs hb] at hok ⊢
    cases hresult : change ⟨var, element, some v⟩ w with
    | ok after => exact hchange hresult
    | error e =>
      rw [hresult] at hok
      exact absurd hok e.result_ne_ok

/-- Each of the three sets is answered with success where it does what it is for. -/
theorem dispatch_ok_of_sets (h : w.Sets c after) :
    (Registry.standard.dispatch c w).1.status.result = .ok := by
  have hperson : Person.surface ∈ Registry.standard.surfaces := List.mem_cons_self
  have hclock : Clock.surface ∈ Registry.standard.surfaces := List.mem_cons_of_mem _ List.mem_cons_self
  cases h with
  | @speed element speed p after hp hid hspeed h =>
    have hb : Person.setter .speed Person.setSpeed ∈ Person.surface.bindings := by
      simp only [Person.surface, List.mem_cons, true_or, or_true]
    exact Registry.result_of_changing hperson hb
      (Person.setSpeed_eq_ok_iff.2 ⟨speed, p, rfl, hspeed, Person.named?_eq_some_iff.2 ⟨hp, hid⟩, rfl⟩)
  | @position element position p after hp hid h =>
    have hb : Person.setter .pos2d Person.setPosition ∈ Person.surface.bindings := by
      simp only [Person.surface, List.mem_cons, true_or, or_true]
    exact Registry.result_of_changing hperson hb
      (Person.setPosition_eq_ok_iff.2 ⟨position, p, rfl, Person.named?_eq_some_iff.2 ⟨hp, hid⟩, rfl⟩)
  | @stepLength element seconds h =>
    have hb : ⟨.setSimulation, SimulationVariable.deltaT.code, .changing Clock.setDeltaT⟩ ∈
        Clock.surface.bindings := by
      simp only [Clock.surface, Clock.opcodes, List.mem_cons, true_or, or_true]
    exact Registry.result_of_changing hclock hb (Clock.setDeltaT_eq_ok_iff.2 ⟨seconds, rfl, h, rfl⟩)

/-! ## Reading back -/

/-- A member whose position was set is told to be there, however the identifier is spelled. -/
theorem gives_position_of_sets {position : Vec2}
    (h : w.Sets (.set .setPerson PersonVariable.pos2d.code element (.pos2d position)) after) {spelling : String}
    (hspelling : Decimal.int32? spelling.toList = Decimal.int32? element.toList) :
    (Registry.standard.dispatch (.get .getPerson PersonVariable.pos2d.code spelling) after).1.Gives
      (.pos2d position) := by
  cases h with
  | @position _ _ p _ hp hid h =>
    have hnamed : Person.named? after spelling = some { p with position } := by
      rw [Person.named?, hspelling, hid]
      refine h.named.trans ?_
      rw [Crowd.find?_eq_some_iff.2 ⟨hp, rfl⟩]
      rfl
    exact Person.gives_of_named (v := .pos2d) rfl hnamed

/-- After the length of a step was set, a get tells just this length, under any element. -/
theorem gives_stepLength_of_sets {seconds : Double}
    (h : w.Sets (.set .setSimulation SimulationVariable.deltaT.code element (.double seconds)) after)
    (other : String) :
    (Registry.standard.dispatch (.get .getSimulation SimulationVariable.deltaT.code other) after).1.Gives
      (.double seconds) := by
  cases h with
  | stepLength hpositive =>
    have hb : ⟨.getSimulation, SimulationVariable.deltaT.code, Clock.telling fun w => .double w.stepLength⟩ ∈
        Clock.surface.bindings := by
      simp only [Clock.surface, Clock.opcodes, List.mem_cons, true_or, or_true]
    exact Registry.gives_of_reading (List.mem_cons_of_mem _ List.mem_cons_self) hb rfl

/-- A get changes nothing. A set is granted if it is one that is served, and then it replaces the one value and
nothing else; otherwise it changes nothing. A position or a step length that was set is what a get is told next.
What nothing is bound to is not implemented, whatever the element and the value, and changes nothing. -/
theorem dispatch_touches (w : World) :
    (∀ o var element, o.category = .get →
      (Registry.standard.dispatch (.get o var element) w).2 = w) ∧
    (∀ o var element v, o.category = .set →
      let answered := Registry.standard.dispatch (.set o var element v) w
      (answered.1.status.result = .ok ↔ ∃ after, w.Sets (.set o var element v) after) ∧
        (answered.1.status.result = .ok → w.Sets (.set o var element v) answered.2) ∧
        (answered.1.status.result ≠ .ok → answered.2 = w)) ∧
    (∀ element position,
      let answered := Registry.standard.dispatch
        (.set .setPerson PersonVariable.pos2d.code element (.pos2d position)) w
      answered.1.status.result = .ok → ∀ spelling : String,
        Decimal.int32? spelling.toList = Decimal.int32? element.toList →
        (Registry.standard.dispatch (.get .getPerson PersonVariable.pos2d.code spelling) answered.2).1.Gives
          (.pos2d position)) ∧
    (∀ element seconds,
      let answered := Registry.standard.dispatch
        (.set .setSimulation SimulationVariable.deltaT.code element (.double seconds)) w
      answered.1.status.result = .ok → ∀ other,
        (Registry.standard.dispatch (.get .getSimulation SimulationVariable.deltaT.code other) answered.2).1.Gives
          (.double seconds)) ∧
    ∀ c request, c.request? = some request →
      (∀ s ∈ Registry.standard.surfaces, ∀ b ∈ s.bindings, ¬(b.opcode = c.opcode ∧ b.var = request.var)) →
      ∃ description, Registry.standard.dispatch c w = (.notImplemented c.opcode description, w) := by
  refine ⟨fun o var element ho => Registry.readsOnly_standard.dispatch_get ho var element w,
    fun o var element v ho => ⟨⟨fun hok => ⟨_, sets_of_dispatch_ok ho hok⟩, fun ⟨after, h⟩ => dispatch_ok_of_sets h⟩,
      sets_of_dispatch_ok ho, fun hfail => ?_⟩,
    fun element position hok spelling hspelling => gives_position_of_sets (sets_of_dispatch_ok rfl hok) hspelling,
    fun element seconds hok other => gives_stepLength_of_sets (sets_of_dispatch_ok rfl hok) other,
    fun c request hrequest hunbound => Registry.dispatch_of_unbound _ hrequest hunbound w⟩
  exact (Registry.failsClean_dispatch_set Registry.failsClean_standard o var element v w hfail).2

/-- Pedestrian 1 is put on 2 under another spelling of its identifier and found there under its own. A spelling
out of range names nobody, and colours cannot be set. -/
theorem dispatch_touches_spelled :
    let w := ((empty 0).add (.standing 1 0 0 0)).add (.standing 2 0 0 0)
    let here : Vec2 := ⟨⟨0x4000000000000000⟩, 0⟩
    let set (element : String) : Command := .set .setPerson PersonVariable.pos2d.code element (.pos2d here)
    let answered := Registry.standard.dispatch (set "+01") w
    let refused := Registry.standard.dispatch (set "4294967297") w
    answered.1.status.result = .ok ∧ w.Sets (set "+01") answered.2 ∧ answered.2.crowd.find? 2 = w.crowd.find? 2 ∧
      (Registry.standard.dispatch (.get .getPerson PersonVariable.pos2d.code "1") answered.2).1.Gives (.pos2d here) ∧
      refused.1.status.result = .error ∧ refused.2 = w ∧
      ∃ description, Registry.standard.dispatch (.set .setPerson PersonVariable.color.code "1" (.pos2d here)) w =
        (.notImplemented .setPerson description, w) := by
  intro w here set answered refused
  obtain ⟨-, hset, hposition, -, hunbound⟩ := dispatch_touches w
  have hok : answered.1.status.result = .ok := by decide +kernel
  have herror : refused.1.status.result = .error := by decide +kernel
  have hsets := (hset .setPerson _ "+01" (.pos2d here) rfl).2.1 hok
  refine ⟨hok, hsets, ?_, hposition "+01" here hok "1" (by decide), herror, ?_,
    hunbound (.set .setPerson PersonVariable.color.code "1" (.pos2d here)) _ rfl ?_⟩
  · decide +kernel
  · exact (hset .setPerson _ "4294967297" (.pos2d here) rfl).2.2 (by rw [herror]; decide)
  · simp only [Registry.standard, Person.surface, Clock.surface, List.forall_mem_cons]
    decide

end World

end PedestrianControl
