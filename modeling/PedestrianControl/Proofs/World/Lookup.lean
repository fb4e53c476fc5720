import Mathlib.Data.List.Induction
import Mathlib.Data.List.Nodup
import PedestrianControl.World.Crowd

/-!
# Who is found in a crowd

A crowd is a list and it is searched from the front, but its identifiers ascend, so that no two members share
one. A search finds whoever is a member with the identifier (`Crowd.find?_eq_some_iff`), and a crowd that
somebody was added to, or in which somebody was changed, answers searches as a map from identifiers would.
-/

namespace PedestrianControl.Crowd

variable {c : Crowd} {p q : Pedestrian} {id : Int32}

/-- The identifiers of the members, ascending. -/
def ids (c : Crowd) : List Int32 := c.members.map (·.id)

/-- The identifiers of a crowd ascend. -/
theorem pairwise_ids (c : Crowd) : c.ids.Pairwise fun a b => a.toInt < b.toInt :=
  List.pairwise_map.2 c.ascending

/-- No identifier of a crowd occurs twice. -/
theorem nodup_ids (c : Crowd) : c.ids.Nodup := by
  refine c.pairwise_ids.imp fun hlt heq => ?_
  rw [heq] at hlt
  exact Int.lt_irrefl _ hlt

/-- An identifier is one of the crowd if a pedestrian has it. -/
theorem mem_ids_iff : id ∈ c.ids ↔ ∃ p ∈ c.members, p.id = id := List.mem_map

/-! ## Searching -/

/-- Who is found is the member of the identifier. -/
theorem find?_eq_some_iff : c.find? id = some p ↔ p ∈ c.members ∧ p.id = id := by
  constructor
  · intro h
    exact ⟨List.mem_of_find?_eq_some h, by simpa using List.find?_some h⟩
  · rintro ⟨hp, rfl⟩
    cases hfind : c.find? p.id with
    | none => simpa using List.find?_eq_none.1 hfind p hp
    | some q =>
      have hid : q.id = p.id := by simpa using List.find?_some hfind
      rw [List.inj_on_of_nodup_map c.nodup_ids (List.mem_of_find?_eq_some hfind) hp hid]

/-- A pedestrian is found exactly under the identifiers of the crowd. -/
theorem exists_find?_iff : (∃ p, c.find? id = some p) ↔ id ∈ c.ids := by
  simp only [find?_eq_some_iff, mem_ids_iff]

/-! ## Adding -/

/-- An added pedestrian takes the place of the one with its identifier. -/
theorem mem_insertInto_iff {ps : List Pedestrian} (h : ps.Pairwise fun a b => a.id.toInt < b.id.toInt) :
    q ∈ insertInto p ps ↔ q = p ∨ q ∈ ps ∧ q.id ≠ p.id := by
  induction ps with
  | nil => simp [insertInto]
  | cons r rest ih =>
    obtain ⟨hr, hrest⟩ := List.pairwise_cons.1 h
    -- whoever stands behind a place where `p` belongs has a greater identifier
    have hlater {a : Pedestrian} (ha : p.id.toInt ≤ r.id.toInt) (hmem : a ∈ rest) : a.id ≠ p.id := by
      intro heq
      have := hr a hmem
      rw [heq] at this
      omega
    rw [insertInto]
    split
    · rename_i hlt
      have hne : r.id ≠ p.id := fun heq => Int.ne_of_gt hlt (congrArg Int32.toInt heq)
      grind
    · split
      · rename_i heq
        have hle : p.id.toInt ≤ r.id.toInt := Int.le_of_eq (congrArg Int32.toInt heq)
        grind
      · rename_i hne
        rw [List.mem_cons, ih hrest]
        grind

/-- In a crowd there are the one inserted and all others but those of its identifier. -/
theorem mem_insert_iff : q ∈ (c.insert p).members ↔ q = p ∨ q ∈ c.members ∧ q.id ≠ p.id :=
  mem_insertInto_iff c.ascending

/-- The one inserted is found under its identifier. -/
theorem find?_insert_self (c : Crowd) (p : Pedestrian) : (c.insert p).find? p.id = some p :=
  find?_eq_some_iff.2 ⟨mem_insert_iff.2 (.inl rfl), rfl⟩

/-- Under any other identifier, what was found is found. -/
theorem find?_insert_of_ne (h : id ≠ p.id) : (c.insert p).find? id = c.find? id := by
  refine Option.ext fun q => ?_
  rw [find?_eq_some_iff, find?_eq_some_iff, mem_insert_iff]
  grind

/-- The identifiers are that of the one inserted and those from before. -/
theorem mem_ids_insert_iff : id ∈ (c.insert p).ids ↔ id = p.id ∨ id ∈ c.ids := by
  by_cases h : id = p.id
  · subst h
    simp [← exists_find?_iff, find?_insert_self]
  · simp [← exists_find?_iff, find?_insert_of_ne h, h]

/-- Who is found in the crowd of a list is the last one with the identifier. -/
theorem find?_ofList (ps : List Pedestrian) (id : Int32) :
    (ofList ps).find? id = ps.reverse.find? fun p => p.id == id := by
  induction ps using List.reverseRecOn with
  | nil => rfl
  | append_singleton ps p ih =>
    have hinsert : ofList (ps ++ [p]) = (ofList ps).insert p := by
      rw [ofList, List.foldl_append, List.foldl_cons, List.foldl_nil, ofList]
    rw [hinsert, List.reverse_append, List.reverse_singleton, List.singleton_append, List.find?_cons]
    by_cases h : id = p.id
    · subst h
      simp [find?_insert_self]
    · have hne : (p.id == id) = false := by simpa using fun heq => h heq.symm
      rw [hne, find?_insert_of_ne h, ih]

/-- A crowd has the identifiers of the pedestrians it is made of. -/
theorem mem_ids_ofList_iff {ps : List Pedestrian} : id ∈ (ofList ps).ids ↔ ∃ p ∈ ps, p.id = id := by
  rw [← exists_find?_iff, find?_ofList, ← Option.isSome_iff_exists, List.find?_isSome]
  simp

/-- Who is in the crowd of a list is in the list. -/
theorem mem_of_mem_ofList {ps : List Pedestrian} (h : p ∈ (ofList ps).members) : p ∈ ps := by
  have hfind : (ofList ps).find? p.id = some p := find?_eq_some_iff.2 ⟨h, rfl⟩
  rw [find?_ofList] at hfind
  exact List.mem_reverse.1 (List.mem_of_find?_eq_some hfind)

/-- Where no two in a list share an identifier, everybody in it is in its crowd. -/
theorem mem_ofList_iff {ps : List Pedestrian} (hdistinct : (ps.map (·.id)).Nodup) :
    p ∈ (ofList ps).members ↔ p ∈ ps := by
  refine ⟨mem_of_mem_ofList, fun hp => ?_⟩
  obtain ⟨q, hq, hid⟩ := mem_ids_iff.1 (mem_ids_ofList_iff.2 ⟨p, hp, rfl⟩)
  rwa [← List.inj_on_of_nodup_map hdistinct (mem_of_mem_ofList hq) hp hid]

/-- A crowd of pedestrians with identifiers of their own is these pedestrians. -/
theorem perm_ofList {ps : List Pedestrian} (hdistinct : (ps.map (·.id)).Nodup) :
    (ofList ps).members.Perm ps :=
  (List.perm_ext_iff_of_nodup (.of_map _ (ofList ps).nodup_ids) (.of_map _ hdistinct)).2 fun _ =>
    mem_ofList_iff hdistinct

/-! ## Changing -/

section Changing

variable {f : Pedestrian → Pedestrian} (keeps : ∀ p, (f p).id = p.id)

/-- Changing everybody leaves the identifiers. -/
theorem ids_map : (c.map f keeps).ids = c.ids := by
  simp [ids, map, keeps]

/-- Changing one pedestrian leaves the identifiers. -/
theorem ids_modify : (c.modify id f keeps).ids = c.ids := ids_map _

/-- Who is found after everybody has changed is the one from before, changed. -/
theorem find?_map : (c.map f keeps).find? id = (c.find? id).map f := by
  simp only [find?, map, List.find?_map, Function.comp_def, keeps]

/-- Under the identifier of a change, the changed pedestrian is found. -/
theorem find?_modify_self : (c.modify id f keeps).find? id = (c.find? id).map f := by
  rw [modify, find?_map]
  refine Option.map_congr fun p hp => ?_
  rw [if_pos (find?_eq_some_iff.1 hp).2]

/-- Under any other identifier, who was found is found. -/
theorem find?_modify_of_ne {other : Int32} (h : other ≠ id) :
    (c.modify id f keeps).find? other = c.find? other := by
  rw [modify, find?_map]
  refine (Option.map_congr fun p hp => ?_).trans Option.map_id'
  rw [if_neg]
  exact fun heq => h ((find?_eq_some_iff.1 hp).2.symm.trans heq)

end Changing

end PedestrianControl.Crowd
