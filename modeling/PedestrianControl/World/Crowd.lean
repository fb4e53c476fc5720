import PedestrianControl.World.Pedestrian

/-!
# Crowds

The pedestrians of a world, at most one for each identifier, in the order of their identifiers.
-/

namespace PedestrianControl

/-- Pedestrians in ascending order of their identifiers. -/
structure Crowd where
  members : List Pedestrian
  ascending : members.Pairwise fun a b => a.id.toInt < b.id.toInt

namespace Crowd

/-- Nobody. -/
def empty : Crowd := ⟨[], .nil⟩

instance : Inhabited Crowd := ⟨empty⟩

/-- The number of pedestrians. -/
def size (c : Crowd) : Nat := c.members.length

/-- The pedestrian with an identifier. -/
def find? (c : Crowd) (id : Int32) : Option Pedestrian := c.members.find? fun p => p.id == id

/-- A list with a pedestrian at its place, in place of one with the same identifier. -/
def insertInto (p : Pedestrian) : List Pedestrian → List Pedestrian
  | [] => [p]
  | q :: rest =>
    if p.id.toInt < q.id.toInt then p :: q :: rest
    else if p.id = q.id then p :: rest
    else q :: insertInto p rest

/-- An inserted list holds the new pedestrian and old ones. -/
theorem mem_insertInto {p q : Pedestrian} {ps : List Pedestrian} (h : q ∈ insertInto p ps) :
    q = p ∨ q ∈ ps := by
  induction ps with
  | nil => simpa [insertInto] using h
  | cons r rest ih =>
    unfold insertInto at h
    split at h
    · simpa using h
    · split at h
      · rcases List.mem_cons.1 h with h | h
        · exact .inl h
        · exact .inr (List.mem_cons_of_mem _ h)
      · rcases List.mem_cons.1 h with h | h
        · exact .inr (h ▸ List.mem_cons_self)
        · exact (ih h).imp id (List.mem_cons_of_mem _)

/-- Inserting keeps the order. -/
theorem pairwise_insertInto (p : Pedestrian) {ps : List Pedestrian}
    (h : ps.Pairwise fun a b => a.id.toInt < b.id.toInt) :
    (insertInto p ps).Pairwise fun a b => a.id.toInt < b.id.toInt := by
  induction ps with
  | nil => simp [insertInto]
  | cons q rest ih =>
    obtain ⟨hq, hrest⟩ := List.pairwise_cons.1 h
    unfold insertInto
    split
    · rename_i hlt
      refine List.pairwise_cons.2 ⟨fun r hr => ?_, h⟩
      rcases List.mem_cons.1 hr with rfl | hr
      · exact hlt
      · exact Int.lt_trans hlt (hq r hr)
    · split
      · rename_i heq
        exact List.pairwise_cons.2 ⟨fun r hr => heq ▸ hq r hr, hrest⟩
      · rename_i hlt hne
        refine List.pairwise_cons.2 ⟨fun r hr => ?_, ih hrest⟩
        rcases mem_insertInto hr with rfl | hr
        · have : r.id.toInt ≠ q.id.toInt := fun e => hne (Int32.toInt_inj.1 e)
          omega
        · exact hq r hr

/-- The crowd with a pedestrian added, in place of one with the same identifier. -/
def insert (c : Crowd) (p : Pedestrian) : Crowd :=
  ⟨insertInto p c.members, pairwise_insertInto p c.ascending⟩

/-- The crowd of a list; of several pedestrians with one identifier the last counts. -/
def ofList (ps : List Pedestrian) : Crowd := ps.foldl insert empty

/-- Every pedestrian changed by a function that keeps identifiers. -/
def map (f : Pedestrian → Pedestrian) (keeps : ∀ p, (f p).id = p.id) (c : Crowd) : Crowd :=
  ⟨c.members.map f, by
    rw [List.pairwise_map]
    exact c.ascending.imp fun h => by rw [keeps, keeps]; exact h⟩

/-- The pedestrian with an identifier changed by a function that keeps identifiers. -/
def modify (id : Int32) (f : Pedestrian → Pedestrian) (keeps : ∀ p, (f p).id = p.id)
    (c : Crowd) : Crowd :=
  c.map (fun p => if p.id = id then f p else p) fun p => by
    split
    · exact keeps p
    · rfl

end Crowd

end PedestrianControl
