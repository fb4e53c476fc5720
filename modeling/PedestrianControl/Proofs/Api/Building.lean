import PedestrianControl.Proofs.Api.Surface

/-!
# Registries that build

A registry builds only if no opcode is claimed twice, by two surfaces or by one (`Registry.build_eq_ok_iff`). Then
an opcode leads to the one surface that claims it, wherever this surface stands in the list
(`Registry.surface?_of_mem`).
-/

namespace PedestrianControl.Registry

variable {σ : Type}

/-- Nothing is repeated exactly if all elements differ, from each other and from those before them. -/
theorem firstRepeated_eq_none_iff {α : Type} [DecidableEq α] (earlier l : List α) :
    firstRepeated earlier l = none ↔ l.Nodup ∧ ∀ a ∈ l, a ∉ earlier := by
  induction l generalizing earlier with
  | nil => simp [firstRepeated]
  | cons a rest ih =>
    rw [firstRepeated]
    split
    · rename_i hmem
      simp [hmem]
    · rename_i hmem
      rw [ih, List.nodup_cons, List.forall_mem_cons]
      constructor
      · rintro ⟨hnodup, hnew⟩
        have hout : a ∉ rest := fun ha => hnew a ha List.mem_cons_self
        exact ⟨⟨hout, hnodup⟩, hmem, fun b hb hearlier => hnew b hb (List.mem_cons_of_mem a hearlier)⟩
      · rintro ⟨⟨hout, hnodup⟩, -, hnew⟩
        refine ⟨hnodup, fun b hb => ?_⟩
        rw [List.mem_cons, not_or]
        exact ⟨fun hsame => hout (hsame ▸ hb), hnew b hb⟩

/-- What it takes to build a registry, and what is built. -/
theorem build_eq_ok_iff {surfaces : List (Surface σ)} {r : Registry σ} :
    build surfaces = .ok r ↔
      checkTables surfaces = .ok () ∧ (surfaces.flatMap Surface.claimed).Nodup ∧ r = ⟨surfaces⟩ := by
  have hrepeated := firstRepeated_eq_none_iff [] (surfaces.flatMap Surface.claimed)
  rw [build]
  cases checkTables surfaces with
  | error e => exact ⟨nofun, nofun⟩
  | ok _ =>
    dsimp only [bind, Except.bind]
    cases hfirst : firstRepeated [] (surfaces.flatMap Surface.claimed) with
    | some o =>
      rw [hfirst] at hrepeated
      refine ⟨nofun, fun ⟨_, hnodup, _⟩ => ?_⟩
      cases hrepeated.2 ⟨hnodup, fun _ _ => List.not_mem_nil⟩
    | none =>
      have hnodup := (hrepeated.1 hfirst).1
      rw [Except.ok.injEq]
      exact ⟨fun hr => ⟨rfl, hnodup, hr.symm⟩, fun ⟨_, _, hr⟩ => hr.symm⟩

/-- Where no opcode is claimed twice, an opcode leads to the surface that claims it. -/
theorem surface?_of_mem {r : Registry σ} (hnodup : (r.surfaces.flatMap Surface.claimed).Nodup)
    {s : Surface σ} (hs : s ∈ r.surfaces) {o : Opcode} (ho : o ∈ s.claimed) : r.surface? o = some s := by
  obtain ⟨surfaces⟩ := r
  rw [surface?]
  dsimp only at hnodup hs ⊢
  induction surfaces with
  | nil => cases hs
  | cons first rest ih =>
    rw [List.flatMap_cons, List.nodup_append] at hnodup
    obtain ⟨-, hrest, hapart⟩ := hnodup
    rcases List.mem_cons.1 hs with rfl | hs
    · exact List.find?_cons_of_pos (List.contains_iff_mem.2 ho)
    · have hother : o ∉ first.claimed := fun hfirst =>
        hapart o hfirst o (List.mem_flatMap_of_mem hs ho) rfl
      rw [List.find?_cons_of_neg (by simpa using hother)]
      exact ih hrest hs

end PedestrianControl.Registry
