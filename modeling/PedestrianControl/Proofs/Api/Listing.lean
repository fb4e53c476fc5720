import PedestrianControl.Proofs.Api.Named
import PedestrianControl.Proofs.Decimal.Integer
import PedestrianControl.Proofs.World.Identifiers

/-!
# Listing pedestrians and asking for them

Who is in a world can be asked for in three ways: as a list of identifiers, as a number, and one by one.
`World.Lists` says that the three agree with each other, for every text that a client may send for an
identifier. They do in every world of at most `2147483647` pedestrians (`World.lists_ids`); the limit is that of
the numbers that are told.
-/

namespace PedestrianControl

namespace World

variable {w : World}

/-- A text names somebody if it is a spelling of an identifier that is in use. -/
theorem exists_named?_iff {element : String} :
    (∃ p, Person.named? w element = some p) ↔ ∃ n ∈ w.crowd.ids, Decimal.int32? element.toList = some n := by
  simp only [Person.named?_eq_some_iff, Crowd.mem_ids_iff]
  constructor
  · rintro ⟨p, hp, hid⟩
    exact ⟨p.id, ⟨p, hp, rfl⟩, hid⟩
  · rintro ⟨n, ⟨p, hp, rfl⟩, hid⟩
    exact ⟨p, hp, hid⟩

/-- The answer to a get at the server. -/
def answer (w : World) (o : Opcode) (var : UInt8) (element : String) : Response :=
  (Registry.standard.dispatch (.get o var element) w).1

/-- What the server tells of a world agrees with a list of identifiers. -/
structure Lists (w : World) (ns : List Int32) : Prop where
  ascending : ns.Pairwise fun a b => a.toInt < b.toInt
  /-- The list is told in decimal. -/
  idList : ∀ element, (w.answer .getPerson PersonVariable.idList.code element).Gives
    (.stringList (ns.map fun n => toString n.toInt))
  /-- Its length is told, in a number that has not overflowed. -/
  count : ∃ k : Int32, k.toInt = ns.length ∧
    (∀ element, (w.answer .getPerson PersonVariable.count.code element).Gives (.integer k)) ∧
    ∀ element, (w.answer .getSimulation SimulationVariable.minExpectedNumber.code element).Gives (.integer k)
  /-- Whoever is listed can be asked for in the words of the list. -/
  listed : ∀ n ∈ ns, ∃ p, w.crowd.find? n = some p ∧ p.id = n ∧ ∀ v tell, Person.tells? v = some tell →
    (w.answer .getPerson v.code (toString n.toInt)).Gives (tell p)
  /-- A text is granted exactly if it is a spelling of a listed identifier. -/
  granted : ∀ v tell, Person.tells? v = some tell → ∀ element,
    (w.answer .getPerson v.code element).status.result = .ok ↔ ∃ n ∈ ns, Decimal.int32? element.toList = some n
  /-- Every other text is refused. -/
  refused : ∀ v tell, Person.tells? v = some tell → ∀ element,
    (¬∃ n ∈ ns, Decimal.int32? element.toList = some n) →
      (w.answer .getPerson v.code element).status.result = .error

/-- The two variables that count pedestrians give their number, as far as the number fits. -/
theorem gives_count (h : w.crowd.size ≤ 2147483647) :
    ∃ k : Int32, k.toInt = w.crowd.ids.length ∧
      (∀ element, (w.answer .getPerson PersonVariable.count.code element).Gives (.integer k)) ∧
      ∀ element, (w.answer .getSimulation SimulationVariable.minExpectedNumber.code element).Gives (.integer k) := by
  have hcount : Person.getter .count (.reading fun _ w => .ok (.integer (Int32.ofNat w.crowd.size))) ∈
      Person.surface.bindings := by
    simp only [Person.surface, List.mem_cons, true_or, or_true]
  have hexpected : ⟨.getSimulation, SimulationVariable.minExpectedNumber.code,
      Clock.telling fun w => .integer (Int32.ofNat w.crowd.size)⟩ ∈ Clock.surface.bindings := by
    simp only [Clock.surface, Clock.opcodes, List.mem_cons, true_or, or_true]
  refine ⟨Int32.ofNat w.crowd.size, ?_, fun element => ?_, fun element => ?_⟩
  · rw [Int32.toInt_ofNat_of_lt (by omega), Crowd.ids, List.length_map, Crowd.size]
  · exact Registry.gives_of_reading List.mem_cons_self hcount rfl
  · exact Registry.gives_of_reading (List.mem_cons_of_mem _ List.mem_cons_self) hexpected rfl

/-- In every world in which everybody can be counted, listing, counting and asking agree. -/
theorem lists_ids (h : w.crowd.size ≤ 2147483647) : w.Lists w.crowd.ids where
  ascending := w.crowd.pairwise_ids
  idList element := by
    have hb : Person.getter .idList (.reading fun _ w => .ok (.stringList (Person.ids w))) ∈
        Person.surface.bindings := by
      simp only [Person.surface, List.mem_cons, true_or]
    have hids : w.crowd.ids.map (fun n => toString n.toInt) = Person.ids w := by
      rw [Crowd.ids, List.map_map, Person.ids]
      rfl
    rw [hids]
    exact Registry.gives_of_reading List.mem_cons_self hb rfl
  count := gives_count h
  listed n hn := by
    obtain ⟨p, hp, rfl⟩ := Crowd.mem_ids_iff.1 hn
    have hnamed : Person.named? w (toString p.id.toInt) = some p :=
      Person.named?_eq_some_iff.2 ⟨hp, Decimal.int32?_toString p.id⟩
    exact ⟨p, Crowd.find?_eq_some_iff.2 ⟨hp, rfl⟩, rfl,
      fun v tell htell => Person.gives_of_named htell hnamed⟩
  granted v tell htell element := by
    rw [← exists_named?_iff]
    constructor
    · intro hok
      by_contra hnone
      have hrefused := Person.result_of_unnamed htell
        (Option.eq_none_iff_forall_ne_some.2 (not_exists.1 hnone))
      cases hok.symm.trans hrefused
    · rintro ⟨p, hnamed⟩
      exact (Person.gives_of_named htell hnamed).1
  refused v tell htell element hnone := by
    rw [← exists_named?_iff] at hnone
    exact Person.result_of_unnamed htell
      (Option.eq_none_iff_forall_ne_some.2 (not_exists.1 hnone))

/-- Whatever happened in a world that began empty, as long as everybody in it can be counted: the server lists
the identifiers that are in use, ascending and in decimal, tells how many they are, and tells of the pedestrian
of each, asked for in the words of the list. Of other texts it answers the spellings of these identifiers, and
refuses the rest. -/
theorem lists_in_use (stepLength : Double) (history : List Event)
    (hsize : ((empty stepLength).undergoAll history).crowd.size ≤ 2147483647) :
    let w := (empty stepLength).undergoAll history
    w.Lists w.crowd.ids ∧ ∀ n, n ∈ w.crowd.ids ↔ n ∈ inUse history :=
  ⟨lists_ids hsize, mem_ids_after_iff stepLength history⟩

/-- Pedestrian 7 is gone with the scenario, 9 was replaced, 10 was moved under another spelling, and the least
identifier there is comes first. -/
theorem lists_in_use_replaced :
    let history : List Event :=
      [.added (.standing 7 0 0 0),
        .asked (.load "pair" "pedestrian 10 0 0 1 5 0\npedestrian -2147483648 0 0 1 5 0"),
        .added (.standing 9 0 0 0), .asked (.command (.set .setPerson PersonVariable.pos2d.code "+010" (.pos2d 0))),
        .asked .step, .added (.standing 9 ⟨0, ⟨0x4000000000000000⟩⟩ 0 0)]
    let w := (empty 0).undergoAll history
    w.crowd.size ≤ 2147483647 ∧ w.crowd.ids = [-2147483648, 9, 10] ∧ w.Lists [-2147483648, 9, 10] ∧
      (w.answer .getPerson PersonVariable.idList.code "").Gives (.stringList ["-2147483648", "9", "10"]) ∧
      (w.answer .getPerson PersonVariable.type.code "-2147483648").status.result = .ok ∧
      (w.answer .getPerson PersonVariable.pos2d.code "+010").status.result = .ok ∧
      (w.answer .getPerson PersonVariable.pos2d.code "7").status.result = .error ∧ 7 ∉ inUse history := by
  intro history w
  have hsize : w.crowd.size ≤ 2147483647 := by decide +kernel
  have hids : w.crowd.ids = [-2147483648, 9, 10] := by decide +kernel
  obtain ⟨hlists, huse⟩ := lists_in_use 0 history hsize
  have hlists' : w.Lists [-2147483648, 9, 10] := hids ▸ hlists
  refine ⟨hsize, hids, hlists', hlists'.idList "", ?least, ?spelled, ?gone, ?unused⟩
  case least => exact (hlists'.granted .type _ rfl _).2 ⟨-2147483648, by decide, by decide⟩
  case spelled => exact (hlists'.granted .pos2d _ rfl _).2 ⟨10, by decide, by decide⟩
  case gone => exact hlists'.refused .pos2d _ rfl _ (by decide)
  case unused =>
    rw [← huse 7]
    show 7 ∉ w.crowd.ids
    rw [hids]
    decide

end World

end PedestrianControl
