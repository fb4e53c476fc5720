import Mathlib.Data.List.Induction
import PedestrianControl.Subscription.Registry

/-!
# The order of a session's subscriptions

A session's subscriptions are a map from keys, an opcode and an element each, that remembers in which order its
keys were added. Registering looks for the first entry with a key and removing drops every entry with it; they mean
the same entry because no key ever occurs twice.

The order is said in terms of what was done to the subscriptions (`Subscriptions.after_insertionOrdered`). A key is
`FreshlyAdded` where it is registered while it is absent, and the entries stand in the order in which their keys were
freshly added last, whatever was replaced, removed or dropped in between.
-/

namespace PedestrianControl

/-- What a session has at most one subscription for. -/
def Subscription.key (s : Subscription) : Opcode × String := (s.opcode, s.element)

namespace Subscriptions

/-- The keys of the subscriptions, in order. -/
def keys (subs : Subscriptions) : List (Opcode × String) := subs.entries.map Subscription.key

/-- A subscription is found by the opcode and the id that it has for its key. -/
theorem hasKey_iff {o : Opcode} {element : String} {s : Subscription} :
    hasKey o element s = true ↔ s.key = (o, element) := by
  simp [hasKey, Subscription.key]

/-! ## Single operations -/

/-- A key that is not there is not replaced. -/
theorem replaceIn_of_not_mem {s : Subscription} {entries : List Subscription}
    (h : s.key ∉ entries.map Subscription.key) : replaceIn s entries = none := by
  induction entries with
  | nil => rfl
  | cons t rest ih =>
    rw [List.map_cons, List.mem_cons, not_or] at h
    rw [replaceIn, if_neg fun hkey => h.1 (hasKey_iff.1 hkey).symm, ih h.2, Option.map_none]

/-- Where no key occurs twice, the first entry with a key is the only one. -/
theorem replaceIn_of_mem {s : Subscription} {entries : List Subscription}
    (hnodup : (entries.map Subscription.key).Nodup) (h : s.key ∈ entries.map Subscription.key) :
    replaceIn s entries = some (entries.map fun t => if t.key = s.key then s else t) := by
  induction entries with
  | nil => cases h
  | cons t rest ih =>
    rw [List.map_cons, List.nodup_cons] at hnodup
    obtain ⟨hout, hnodup⟩ := hnodup
    rw [replaceIn, List.map_cons]
    by_cases hkey : t.key = s.key
    · have hrest : rest.map (fun u => if u.key = s.key then s else u) = rest := by
        refine (List.map_congr_left fun u hu => if_neg fun hsame => ?_).trans rest.map_id
        exact hout (hkey.trans hsame.symm ▸ List.mem_map_of_mem hu)
      rw [if_pos (hasKey_iff.2 hkey), if_pos hkey, hrest]
    · have hin : s.key ∈ rest.map Subscription.key :=
        (List.mem_cons.1 h).resolve_left fun hsame => hkey hsame.symm
      rw [if_neg fun hsame => hkey (hasKey_iff.1 hsame), if_neg hkey, ih hnodup hin, Option.map_some]

/-- A subscription whose key is present takes the place of the one with its key. -/
theorem register_of_mem {subs : Subscriptions} {s : Subscription} (hnodup : subs.keys.Nodup)
    (h : s.key ∈ subs.keys) :
    subs.register s = (true, ⟨subs.entries.map fun t => if t.key = s.key then s else t⟩) := by
  rw [register, replaceIn_of_mem hnodup h]

/-- A subscription whose key is absent goes to the end. -/
theorem register_of_not_mem {subs : Subscriptions} {s : Subscription} (h : s.key ∉ subs.keys) :
    subs.register s = (false, ⟨subs.entries ++ [s]⟩) := by
  rw [register, replaceIn_of_not_mem h]

/-- Removing leaves the subscriptions of other keys, and tells whether there was one of this. -/
theorem remove_eq (subs : Subscriptions) (o : Opcode) (element : String) :
    subs.remove o element =
      (decide ((o, element) ∈ subs.keys), ⟨subs.entries.filter fun s => s.key ≠ (o, element)⟩) := by
  have hfound : subs.entries.any (hasKey o element) = decide ((o, element) ∈ subs.keys) := by
    rw [Bool.eq_iff_iff, List.any_eq_true, decide_eq_true_iff, keys, List.mem_map]
    simp only [hasKey_iff]
  have hkept : (fun s => !hasKey o element s) = fun s => decide (s.key ≠ (o, element)) := by
    funext s
    rw [Bool.eq_iff_iff, decide_eq_true_iff, Bool.not_eq_true', ← Bool.not_eq_true, hasKey_iff]
  rw [remove, hfound, hkept]

/-! ## Histories -/

/-- What can be done to the subscriptions. Evaluating may be in any simulation and with any surfaces. -/
inductive Operation : Type 1
  | register (s : Subscription)
  | remove (o : Opcode) (element : String)
  | evaluate {σ : Type} [Simulation σ] (registry : Registry σ) (state : σ)

/-- The subscriptions after an operation. -/
def Operation.apply (subs : Subscriptions) : Operation → Subscriptions
  | register s => (subs.register s).2
  | remove o element => (subs.remove o element).2
  | evaluate registry state => (subs.evaluate registry state).2.1

/-- The subscriptions after a history that began with none. -/
def after (history : List Operation) : Subscriptions := history.foldl Operation.apply empty

/-- One more operation acts on what the earlier ones left. -/
theorem after_concat (history : List Operation) (op : Operation) :
    after (history ++ [op]) = op.apply (after history) := by
  rw [after, List.foldl_append, List.foldl_cons, List.foldl_nil, after]

/-- At this point of a history a key is registered that is absent. -/
def FreshlyAdded (history : List Operation) (key : Opcode × String) (i : Nat) : Prop :=
  ∃ s, history[i]? = some (.register s) ∧ s.key = key ∧ key ∉ (after (history.take i)).keys

/-- The last point of a history at which a key is freshly added. -/
structure AddedLast (history : List Operation) (key : Opcode × String) (i : Nat) : Prop where
  fresh : FreshlyAdded history key i
  last : ∀ j, FreshlyAdded history key j → j ≤ i

/-- An operation adds a key, at the end and if it is absent, or else only drops keys. -/
theorem keys_apply_cases {subs : Subscriptions} (hnodup : subs.keys.Nodup) (op : Operation) :
    (∃ s, op = .register s ∧ s.key ∉ subs.keys ∧ (op.apply subs).keys = subs.keys ++ [s.key]) ∨
      (∀ s, op = .register s → s.key ∈ subs.keys) ∧ (op.apply subs).keys.Sublist subs.keys := by
  cases op with
  | register s =>
    by_cases hmem : s.key ∈ subs.keys
    · refine .inr ⟨fun t ht => Operation.register.inj ht ▸ hmem, ?_⟩
      have hkey (t : Subscription) : (if t.key = s.key then s else t).key = t.key := by
        split
        · rename_i hsame
          exact hsame.symm
        · rfl
      rw [Operation.apply, register_of_mem hnodup hmem, keys, List.map_map]
      exact (List.map_congr_left fun t _ => hkey t) ▸ List.Sublist.refl _
    · refine .inl ⟨s, rfl, hmem, ?_⟩
      rw [Operation.apply, register_of_not_mem hmem, keys, List.map_append, List.map_singleton, keys]
  | remove o element =>
    refine .inr ⟨nofun, ?_⟩
    rw [Operation.apply, remove_eq]
    exact List.filter_sublist.map _
  | evaluate registry state => exact .inr ⟨nofun, List.filter_sublist.map _⟩

/-- No key ever occurs twice. -/
theorem nodup_keys_after (history : List Operation) : (after history).keys.Nodup := by
  induction history using List.reverseRecOn with
  | nil => exact List.nodup_nil
  | append_singleton history op ih =>
    rw [after_concat]
    rcases keys_apply_cases ih op with ⟨s, -, hout, hkeys⟩ | ⟨-, hsublist⟩
    · rw [hkeys]
      refine List.nodup_append.2 ⟨ih, by simp, fun key hkey other hother hsame => ?_⟩
      exact hout (List.mem_singleton.1 hother ▸ hsame ▸ hkey)
    · exact hsublist.nodup ih

/-! ## When keys were added -/

section

variable {history : List Operation} {op : Operation} {key : Opcode × String} {i : Nat}

/-- A point at which a key was added anew is one of the history. -/
theorem FreshlyAdded.lt_length (h : FreshlyAdded history key i) : i < history.length := by
  obtain ⟨s, hs, -⟩ := h
  exact (List.getElem?_eq_some_iff.1 hs).1

/-- One more operation leaves the points before it as they were. -/
theorem freshlyAdded_concat_iff :
    FreshlyAdded (history ++ [op]) key i ↔
      FreshlyAdded history key i ∨
        i = history.length ∧ ∃ s, op = .register s ∧ s.key = key ∧ key ∉ (after history).keys := by
  rcases Nat.lt_trichotomy i history.length with hlt | rfl | hgt
  · rw [FreshlyAdded, List.getElem?_append_left hlt, List.take_append_of_le_length (Nat.le_of_lt hlt), ← FreshlyAdded]
    exact ⟨.inl, fun h => h.resolve_right fun hlast => Nat.ne_of_lt hlt hlast.1⟩
  · rw [FreshlyAdded, List.getElem?_concat_length, List.take_left]
    constructor
    · rintro ⟨s, hs, hkey⟩
      exact .inr ⟨rfl, s, Option.some.inj hs, hkey⟩
    · rintro (hold | ⟨-, s, rfl, hkey⟩)
      · exact absurd hold.lt_length (Nat.lt_irrefl _)
      · exact ⟨s, rfl, hkey⟩
  · constructor
    · intro h
      have hlt := h.lt_length
      rw [List.length_append, List.length_singleton] at hlt
      omega
    · rintro (hold | ⟨rfl, -⟩)
      · exact absurd hold.lt_length (Nat.lt_asymm hgt)
      · exact absurd hgt (Nat.lt_irrefl _)

/-- An operation that does not freshly add a key leaves the point at which it was added last. -/
theorem addedLast_concat_iff (h : ∀ s, op = .register s → s.key = key → key ∈ (after history).keys) :
    AddedLast (history ++ [op]) key i ↔ AddedLast history key i := by
  have hfresh (j : Nat) : FreshlyAdded (history ++ [op]) key j ↔ FreshlyAdded history key j := by
    rw [freshlyAdded_concat_iff]
    exact or_iff_left fun ⟨_, s, hop, hkey, hout⟩ => hout (h s hop hkey)
  exact ⟨fun ⟨hat, hlast⟩ => ⟨(hfresh i).1 hat, fun j hj => hlast j ((hfresh j).2 hj)⟩,
    fun ⟨hat, hlast⟩ => ⟨(hfresh i).2 hat, fun j hj => hlast j ((hfresh j).1 hj)⟩⟩

/-- A key that is freshly added at the end was added last there. -/
theorem addedLast_concat_self_iff {s : Subscription} (h : s.key ∉ (after history).keys) :
    AddedLast (history ++ [.register s]) s.key i ↔ i = history.length := by
  have hend : FreshlyAdded (history ++ [.register s]) s.key history.length :=
    freshlyAdded_concat_iff.2 (.inr ⟨rfl, s, rfl, rfl, h⟩)
  have hle (j : Nat) (hj : FreshlyAdded (history ++ [.register s]) s.key j) : j ≤ history.length := by
    have hlt := hj.lt_length
    rw [List.length_append, List.length_singleton] at hlt
    exact Nat.le_of_lt_succ hlt
  constructor
  · intro hlast
    exact Nat.le_antisymm (hle i hlast.fresh) (hlast.last _ hend)
  · rintro rfl
    exact ⟨hend, hle⟩

end

/-- One key was added last before another was. -/
def AddedBefore (history : List Operation) (a b : Opcode × String) : Prop :=
  ∀ i j, AddedLast history a i → AddedLast history b j → i < j

/-- Every key that is present was freshly added some time, and the keys stand in the order in which they were added
last. -/
theorem pairwise_addedBefore (history : List Operation) :
    (∀ key ∈ (after history).keys, ∃ i, AddedLast history key i) ∧
      (after history).keys.Pairwise (AddedBefore history) := by
  induction history using List.reverseRecOn with
  | nil => exact ⟨nofun, .nil⟩
  | append_singleton history op ih =>
    obtain ⟨hadded, hordered⟩ := ih
    rw [after_concat]
    rcases keys_apply_cases (nodup_keys_after history) op with ⟨s, rfl, hout, hkeys⟩ | ⟨hin, hsublist⟩
    · -- the new key comes after all others, and of these none was added
      have hothers {key : Opcode × String} (hkey : key ∈ (after history).keys) (i : Nat) :
          AddedLast (history ++ [.register s]) key i ↔ AddedLast history key i :=
        addedLast_concat_iff fun _ _ _ => hkey
      rw [hkeys]
      refine ⟨fun key hkey => ?_, List.pairwise_append.2 ⟨?_, List.pairwise_singleton _ _, ?_⟩⟩
      · rcases List.mem_append.1 hkey with hkey | hkey
        · obtain ⟨i, hi⟩ := hadded key hkey
          exact ⟨i, (hothers hkey i).2 hi⟩
        · rw [List.mem_singleton.1 hkey]
          exact ⟨history.length, (addedLast_concat_self_iff hout).2 rfl⟩
      · refine hordered.imp_of_mem fun ha hb hbefore i j hi hj => ?_
        exact hbefore i j ((hothers ha i).1 hi) ((hothers hb j).1 hj)
      · intro a ha b hb i j hi hj
        rw [List.mem_singleton.1 hb, addedLast_concat_self_iff hout] at hj
        exact hj ▸ ((hothers ha i).1 hi).fresh.lt_length
    · have hsame (key : Opcode × String) (i : Nat) :
          AddedLast (history ++ [op]) key i ↔ AddedLast history key i :=
        addedLast_concat_iff fun s hop hkey => hkey ▸ hin s hop
      refine ⟨fun key hkey => ?_, ?_⟩
      · obtain ⟨i, hi⟩ := hadded key (hsublist.subset hkey)
        exact ⟨i, (hsame key i).2 hi⟩
      · refine (hordered.sublist hsublist).imp fun hbefore i j hi hj => ?_
        exact hbefore i j ((hsame _ i).1 hi) ((hsame _ j).1 hj)

/-- After any history of registering, removing and evaluating: no key occurs twice. A subscription whose key is present
takes the place of the one with its key, and one whose key is absent goes to the end; registering tells which.
Removing drops the one with the key and tells whether there was one. Evaluating drops those whose span is over at the
time that it starts from. The others stay as they are and in order. And the keys stand in the order in which they were
freshly added last. -/
theorem after_insertionOrdered (history : List Operation) :
    let subs := after history
    subs.keys.Nodup ∧
      (∀ s, s.key ∈ subs.keys →
        subs.register s = (true, ⟨subs.entries.map fun t => if t.key = s.key then s else t⟩)) ∧
      (∀ s, s.key ∉ subs.keys → subs.register s = (false, ⟨subs.entries ++ [s]⟩)) ∧
      (∀ o element, subs.remove o element =
        (decide ((o, element) ∈ subs.keys), ⟨subs.entries.filter fun s => s.key ≠ (o, element)⟩)) ∧
      (∀ {σ : Type} [Simulation σ] (registry : Registry σ) (state : σ),
        (subs.evaluate registry state).2.1 =
          ⟨subs.entries.filter fun s => !s.isExpired (Simulation.time state)⟩) ∧
      (∀ key ∈ subs.keys, ∃ i, AddedLast history key i) ∧
      subs.keys.Pairwise fun a b => ∀ i j, AddedLast history a i → AddedLast history b j → i < j := by
  intro subs
  have hnodup : subs.keys.Nodup := nodup_keys_after history
  obtain ⟨hadded, hordered⟩ := pairwise_addedBefore history
  exact ⟨hnodup, fun s => register_of_mem hnodup, fun s => register_of_not_mem, subs.remove_eq,
    fun registry state => rfl, hadded, hordered⟩

end Subscriptions

end PedestrianControl
