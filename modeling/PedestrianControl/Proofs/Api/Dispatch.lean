import Mathlib.Data.List.Forall2
import Mathlib.Data.List.Nodup
import PedestrianControl.Proofs.Api.Building

/-!
# Which handler a command runs

Tables are searched from the front, so what a command is answered could depend on the order in which surfaces
and bindings are given. It does not where building succeeds: then a table has one handler at most for an opcode
and a variable (`Surface.handler?_eq_some_iff`), an opcode is claimed by one surface at most
(`Registry.surface?_eq_some_iff`), and the handler that a command runs is the one bound to it, wherever it
stands (`Registry.build_dispatch`).
-/

namespace PedestrianControl

variable {σ : Type}

/-! ## Tables -/

/-- What a handler is bound to. -/
def Binding.key (b : Binding σ) : Opcode × UInt8 := (b.opcode, b.var)

namespace Surface

variable {s t : Surface σ}

/-- A table that binds only the surface's own opcodes for gets and sets, and nothing twice. -/
structure SoundTable (s : Surface σ) : Prop where
  own : ∀ b ∈ s.bindings, b.opcode = s.opcodes.get ∨ b.opcode = s.opcodes.set
  distinct : (s.bindings.map Binding.key).Nodup

/-- Bindings pass the check behind earlier ones exactly if all are to the surface's own get and set opcodes and none
has the key of another, or of an earlier one. -/
theorem checkBindings_eq_ok_iff {earlier : List (Opcode × UInt8)} {bs : List (Binding σ)} :
    s.checkBindings earlier bs = .ok () ↔
      (∀ b ∈ bs, b.opcode = s.opcodes.get ∨ b.opcode = s.opcodes.set) ∧
        (bs.map Binding.key).Nodup ∧ ∀ b ∈ bs, b.key ∉ earlier := by
  induction bs generalizing earlier with
  | nil => simp [checkBindings]
  | cons b rest ih =>
    rw [checkBindings, List.map_cons, List.nodup_cons, List.forall_mem_cons, List.forall_mem_cons]
    split
    · rename_i hforeign
      simp [hforeign]
    · rename_i hown
      rw [Classical.not_and_iff_not_or_not, Classical.not_not, Classical.not_not] at hown
      split
      · rename_i hearlier
        simp [Binding.key, hearlier]
      · rename_i hnew
        have hkeys : (∀ c ∈ rest, c.key ∉ (b.opcode, b.var) :: earlier) ↔
            b.key ∉ rest.map Binding.key ∧ ∀ c ∈ rest, c.key ∉ earlier := by
          simp only [List.mem_cons, not_or, List.mem_map, not_exists, not_and]
          exact ⟨fun h => ⟨fun c hc => (h c hc).1, fun c hc => (h c hc).2⟩,
            fun h c hc => ⟨h.1 c hc, h.2 c hc⟩⟩
        rw [ih, hkeys]
        constructor
        · rintro ⟨hrest, hnodup, hout, hlater⟩
          exact ⟨⟨hown, hrest⟩, ⟨hout, hnodup⟩, hnew, hlater⟩
        · rintro ⟨⟨-, hrest⟩, ⟨hout, hnodup⟩, -, hlater⟩
          exact ⟨hrest, hnodup, hout, hlater⟩

/-- The check of a table finds the sound ones. -/
theorem check_eq_ok_iff : s.check = .ok () ↔ s.SoundTable := by
  rw [check, checkBindings_eq_ok_iff]
  exact ⟨fun ⟨hown, hdistinct, _⟩ => ⟨hown, hdistinct⟩,
    fun h => ⟨h.own, h.distinct, fun _ _ => List.not_mem_nil⟩⟩

/-- No handler is found exactly if no binding has the key. -/
theorem handler?_eq_none_iff {o : Opcode} {var : UInt8} :
    s.handler? o var = none ↔ ∀ b ∈ s.bindings, b.key ≠ (o, var) := by
  simp [handler?, Binding.key]

/-- In a table that binds nothing twice, a handler is found exactly where it is bound. -/
theorem handler?_eq_some_iff (hdistinct : (s.bindings.map Binding.key).Nodup) {o : Opcode} {var : UInt8}
    {handler : Handler σ} :
    s.handler? o var = some handler ↔ ∃ b ∈ s.bindings, b.key = (o, var) ∧ b.handler = handler := by
  have hfound {b : Binding σ} {handler : Handler σ} (h : s.handler? o var = some handler)
      (hb : b ∈ s.bindings) (hkey : b.key = (o, var)) : b.handler = handler := by
    obtain ⟨c, hc, rfl⟩ := Option.map_eq_some_iff.1 h
    have hsame : c.key = b.key := by
      rw [hkey]
      simpa [Binding.key] using List.find?_some hc
    rw [List.inj_on_of_nodup_map hdistinct (List.mem_of_find?_eq_some hc) hb hsame]
  constructor
  · intro h
    obtain ⟨b, hfind, hhandler⟩ := Option.map_eq_some_iff.1 h
    exact ⟨b, List.mem_of_find?_eq_some hfind, by simpa [Binding.key] using List.find?_some hfind, hhandler⟩
  · rintro ⟨b, hb, hkey, rfl⟩
    cases hnone : s.handler? o var with
    | none => exact absurd hkey (handler?_eq_none_iff.1 hnone b hb)
    | some handler => rw [hfound hnone hb hkey]

end Surface

/-! ## Answers -/

/-- What a get or set asks of the handler it is for. -/
def Command.request? : Command → Option ValueRequest
  | .get _ var element => some ⟨var, element, none⟩
  | .set _ var element value => some ⟨var, element, some value⟩
  | _ => none

/-- The answer of a surface to a get or set, from what the handler came to. -/
def Surface.reply (s : Surface σ) (c : Command) : Except HandlerError (Option TypedValue) → Response
  | .error e => e.response c.opcode
  | .ok outcome =>
    match c, outcome with
    | .get o var element, some v => .withBody o (.value ⟨s.opcodes.getResponse, var, element, v⟩)
    | .get o var _, none => (noValue var).response o
    | c, _ => .ok c.opcode

namespace Registry

variable {r : Registry σ} {s : Surface σ} {c : Command} {request : ValueRequest}

/-- A get or set is answered with what its handler comes to, and leaves the state that the handler leaves. -/
theorem dispatch_of_surface? (hs : r.surface? c.opcode = some s) (hrequest : c.request? = some request)
    (state : σ) :
    r.dispatch c state =
      (s.reply c (s.call c.opcode request state).1, (s.call c.opcode request state).2) := by
  rw [dispatch, hs]
  cases c with
  | get o var element =>
    cases hrequest
    show s.answerGet o var element state = _
    rw [Surface.answerGet_apply]
    rcases hcall : s.call o ⟨var, element, none⟩ state with ⟨_ | _ | _, after⟩ <;>
      simp [Surface.reply, Command.opcode, hcall]
  | set o var element value =>
    cases hrequest
    show s.answerSet o var element value state = _
    rw [Surface.answerSet_apply]
    rcases hcall : s.call o ⟨var, element, some value⟩ state with ⟨_ | _, after⟩ <;>
      simp [Surface.reply, Command.opcode, hcall]
  | getVersion | load | simStep | sendFile | close | subscribe => cases hrequest

/-- Other commands are refused by every surface in the same words. -/
theorem dispatch_of_request?_none (hs : r.surface? c.opcode = some s) (hrequest : c.request? = none)
    (state : σ) :
    r.dispatch c state = (.notImplemented c.opcode
      s!"command {Text.hexByte c.opcode.code} is not a get/set command", state) := by
  rw [dispatch, hs]
  cases c with
  | get | set => cases hrequest
  | getVersion | load | simStep | sendFile | close | subscribe => rfl

/-! ## Building -/

/-- The tables of all surfaces pass exactly if each is sound. -/
theorem checkTables_eq_ok_iff {surfaces : List (Surface σ)} :
    checkTables surfaces = .ok () ↔ ∀ s ∈ surfaces, s.SoundTable := by
  induction surfaces with
  | nil => simp [checkTables]
  | cons s rest ih =>
    rw [List.forall_mem_cons, ← Surface.check_eq_ok_iff, ← ih, checkTables]
    cases hcheck : s.check with
    | error fault => exact ⟨nofun, nofun⟩
    | ok _ => exact ⟨fun h => ⟨rfl, h⟩, fun h => h.2⟩

/-- Where no opcode is claimed twice, the surface of an opcode is the one that claims it. -/
theorem surface?_eq_some_iff (hnodup : (r.surfaces.flatMap Surface.claimed).Nodup) {o : Opcode} :
    r.surface? o = some s ↔ s ∈ r.surfaces ∧ o ∈ s.claimed := by
  refine ⟨fun h => ⟨mem_of_surface? h, ?_⟩, fun ⟨hs, ho⟩ => surface?_of_mem hnodup hs ho⟩
  have hfind : r.surfaces.find? (fun s => s.claimed.contains o) = some s := h
  simpa using List.find?_some hfind

/-- What keeps surfaces from being built into a registry. -/
inductive Conflict (surfaces : List (Surface σ)) : Prop
  /-- A handler is bound to an opcode that its surface neither gets nor sets with. -/
  | foreign {s : Surface σ} {b : Binding σ} (hs : s ∈ surfaces) (hb : b ∈ s.bindings)
      (hget : b.opcode ≠ s.opcodes.get) (hset : b.opcode ≠ s.opcodes.set)
  /-- A surface binds a pair of opcode and variable twice. -/
  | boundTwice {s : Surface σ} (hs : s ∈ surfaces) (h : ¬(s.bindings.map Binding.key).Nodup)
  /-- An opcode is repeated among those of all surfaces. -/
  | shared (h : ¬(surfaces.flatMap fun s => [s.opcodes.get, s.opcodes.set, s.opcodes.subscribe]).Nodup)

/-- Surfaces that build have sound tables and share no opcode. -/
theorem build_eq_ok_iff_sound {surfaces : List (Surface σ)} :
    build surfaces = .ok r ↔ (∀ s ∈ surfaces, s.SoundTable) ∧
      (surfaces.flatMap Surface.claimed).Nodup ∧ r = ⟨surfaces⟩ := by
  rw [build_eq_ok_iff, checkTables_eq_ok_iff]

/-- There is no conflict exactly if every table is sound and no opcode is claimed twice. -/
theorem not_conflict_iff {surfaces : List (Surface σ)} :
    ¬Conflict surfaces ↔
      (∀ s ∈ surfaces, s.SoundTable) ∧ (surfaces.flatMap Surface.claimed).Nodup := by
  constructor
  · intro h
    refine ⟨fun s hs => ⟨fun b hb => ?_, ?_⟩, ?_⟩
    · by_contra hown
      rw [not_or] at hown
      exact h (.foreign hs hb hown.1 hown.2)
    · by_contra hrepeated
      exact h (.boundTwice hs hrepeated)
    · by_contra hrepeated
      exact h (.shared hrepeated)
  · rintro ⟨hsound, hnodup⟩ (⟨hs, hb, hget, hset⟩ | ⟨hs, hrepeated⟩ | hrepeated)
    · exact ((hsound _ hs).own _ hb).elim hget hset
    · exact hrepeated (hsound _ hs).distinct
    · exact hrepeated hnodup

/-- Building fails exactly on conflicts. -/
theorem exists_fault_iff {surfaces : List (Surface σ)} :
    (∃ fault, build surfaces = .error fault) ↔ Conflict surfaces := by
  rw [← not_iff_not, not_conflict_iff]
  constructor
  · intro h
    cases hbuild : build surfaces with
    | error fault => exact absurd ⟨fault, hbuild⟩ h
    | ok r =>
      obtain ⟨hsound, hnodup, -⟩ := build_eq_ok_iff_sound.1 hbuild
      exact ⟨hsound, hnodup⟩
  · rintro ⟨hsound, hnodup⟩ ⟨fault, hfault⟩
    cases hfault.symm.trans (build_eq_ok_iff_sound.2 ⟨hsound, hnodup, rfl⟩)

/-! ## Bound and unbound -/

/-- A get or set without a handler is not implemented, and does nothing. -/
theorem dispatch_of_unbound (r : Registry σ) (hrequest : c.request? = some request)
    (hunbound : ∀ s ∈ r.surfaces, ∀ b ∈ s.bindings, ¬(b.opcode = c.opcode ∧ b.var = request.var))
    (state : σ) : ∃ description, r.dispatch c state = (.notImplemented c.opcode description, state) := by
  cases hsurface : r.surface? c.opcode with
  | none => exact ⟨_, by rw [dispatch, hsurface]; rfl⟩
  | some s =>
    have hhandler : s.handler? c.opcode request.var = none := by
      refine Surface.handler?_eq_none_iff.2 fun b hb hkey => ?_
      exact hunbound s (mem_of_surface? hsurface) b hb (Prod.mk.inj hkey)
    rw [dispatch_of_surface? hsurface hrequest, Surface.call, hhandler]
    exact ⟨_, rfl⟩

section Built

variable {surfaces : List (Surface σ)} (hbuild : build surfaces = .ok r)

include hbuild

/-- The one surface that claims the opcode of a binding is the one it belongs to. -/
theorem mem_claimed_iff_of_binding {b : Binding σ} (hs : s ∈ surfaces) (hb : b ∈ s.bindings)
    {t : Surface σ} (ht : t ∈ surfaces) : b.opcode ∈ t.claimed ↔ t = s := by
  obtain ⟨hsound, hnodup, rfl⟩ := build_eq_ok_iff_sound.1 hbuild
  have hclaims : b.opcode ∈ s.claimed := by
    rcases (hsound s hs).own b hb with hget | hset
    · rw [hget]
      exact List.mem_cons_self
    · rw [hset]
      exact List.mem_cons_of_mem _ List.mem_cons_self
  refine ⟨fun hother => ?_, fun h => h ▸ hclaims⟩
  have hfirst := (surface?_eq_some_iff (r := ⟨surfaces⟩) hnodup).2 ⟨hs, hclaims⟩
  have hsecond := (surface?_eq_some_iff (r := ⟨surfaces⟩) hnodup).2 ⟨ht, hother⟩
  exact Option.some.inj (hsecond.symm.trans hfirst)

/-- A get or set runs the handler that is bound to its opcode and variable. -/
theorem dispatch_of_binding {b : Binding σ} (hs : s ∈ surfaces) (hb : b ∈ s.bindings)
    (hrequest : c.request? = some request) (hopcode : b.opcode = c.opcode) (hvar : b.var = request.var)
    (state : σ) :
    r.dispatch c state = (s.reply c (b.handler request state).1, (b.handler request state).2) := by
  have hclaims := (mem_claimed_iff_of_binding hbuild hs hb hs).2 rfl
  obtain ⟨hsound, hnodup, rfl⟩ := build_eq_ok_iff_sound.1 hbuild
  have hsurface : (⟨surfaces⟩ : Registry σ).surface? c.opcode = some s :=
    (surface?_eq_some_iff hnodup).2 ⟨hs, hopcode ▸ hclaims⟩
  have hhandler : s.handler? c.opcode request.var = some b.handler :=
    (Surface.handler?_eq_some_iff (hsound s hs).distinct).2
      ⟨b, hb, Prod.ext hopcode hvar, rfl⟩
  rw [dispatch_of_surface? hsurface hrequest, Surface.call, hhandler]

/-- A get that is bound to a handler that only looks. -/
theorem dispatch_get_of_reading {o : Opcode} {var : UInt8}
    {read : ValueRequest → σ → Except HandlerError TypedValue} (hs : s ∈ surfaces)
    (hb : ⟨o, var, .reading read⟩ ∈ s.bindings) (element : String) (state : σ) :
    r.dispatch (.get o var element) state =
      (match read ⟨var, element, none⟩ state with
        | .ok v => .withBody o (.value ⟨s.opcodes.getResponse, var, element, v⟩)
        | .error e => e.response o, state) := by
  rw [dispatch_of_binding hbuild hs hb (c := .get o var element) rfl rfl rfl]
  simp only [Handler.reading]
  cases read ⟨var, element, none⟩ state <;> rfl

/-- A set that is bound to a handler that puts a new state in place of the old one. -/
theorem dispatch_set_of_changing {o : Opcode} {var : UInt8} {change : ValueRequest → σ → Except HandlerError σ}
    (hs : s ∈ surfaces) (hb : ⟨o, var, .changing change⟩ ∈ s.bindings) (element : String) (v : TypedValue)
    (state : σ) :
    r.dispatch (.set o var element v) state =
      match change ⟨var, element, some v⟩ state with
      | .ok after => (.ok o, after)
      | .error e => (e.response o, state) := by
  rw [dispatch_of_binding hbuild hs hb (c := .set o var element v) rfl rfl rfl]
  simp only [Handler.changing]
  cases change ⟨var, element, some v⟩ state <;> rfl

end Built

end Registry

/-! ## The order of tables -/

/-- A surface with the bindings in another order. -/
structure Surface.Rearranged (s t : Surface σ) : Prop where
  name : t.name = s.name
  opcodes : t.opcodes = s.opcodes
  variableName? : t.variableName? = s.variableName?
  bindings : t.bindings.Perm s.bindings

namespace Surface.Rearranged

variable {s t : Surface σ}

/-- A rearranged surface claims the same opcodes. -/
theorem claimed_eq (h : s.Rearranged t) : t.claimed = s.claimed := by
  rw [claimed, claimed, h.opcodes]

/-- Whether a table is sound does not depend on the order of its bindings. -/
theorem soundTable_iff (h : s.Rearranged t) : t.SoundTable ↔ s.SoundTable := by
  have hdistinct := (h.bindings.map Binding.key).nodup_iff
  constructor
  · exact fun ht => ⟨fun b hb => h.opcodes ▸ ht.own b (h.bindings.mem_iff.2 hb), hdistinct.1 ht.distinct⟩
  · exact fun hs => ⟨fun b hb => h.opcodes.symm ▸ hs.own b (h.bindings.mem_iff.1 hb), hdistinct.2 hs.distinct⟩

/-- In a sound table the same handler is found in any order, since no key is bound twice. -/
theorem handler?_eq (h : s.Rearranged t) (hs : s.SoundTable) (o : Opcode) (var : UInt8) :
    t.handler? o var = s.handler? o var := by
  refine Option.ext fun handler => ?_
  rw [handler?_eq_some_iff (h.soundTable_iff.2 hs).distinct, handler?_eq_some_iff hs.distinct]
  simp only [h.bindings.mem_iff]

/-- A rearranged surface calls the same handlers. -/
theorem call_eq (h : s.Rearranged t) (hs : s.SoundTable) (o : Opcode) (r : ValueRequest) :
    t.call o r = s.call o r := by
  have hunbound : t.unbound o r.var = s.unbound o r.var := by
    rw [unbound, unbound, h.name, h.variableName?]
  rw [call, call, h.handler?_eq hs, hunbound]

/-- A rearranged surface words its replies in the same way. -/
theorem reply_eq (h : s.Rearranged t) (c : Command) : t.reply c = s.reply c := by
  funext outcome
  cases outcome with
  | error e => rfl
  | ok outcome => simp only [reply, h.opcodes]

end Surface.Rearranged

namespace Registry

/-- The same surfaces in another order, each with its bindings in another order. -/
def Rearranged (surfaces others : List (Surface σ)) : Prop :=
  ∃ permuted, surfaces.Perm permuted ∧ List.Forall₂ Surface.Rearranged permuted others

variable {surfaces permuted others : List (Surface σ)}

/-- Rearranged one by one, the surfaces claim the same opcodes in the same order. -/
theorem flatMap_claimed_eq (h : List.Forall₂ Surface.Rearranged permuted others) :
    others.flatMap Surface.claimed = permuted.flatMap Surface.claimed := by
  induction h with
  | nil => rfl
  | cons hfirst _ ih => rw [List.flatMap_cons, List.flatMap_cons, hfirst.claimed_eq, ih]

/-- Rearranged one by one, the surfaces have sound tables exactly if they had before. -/
theorem forall_soundTable_iff (h : List.Forall₂ Surface.Rearranged permuted others) :
    (∀ t ∈ others, t.SoundTable) ↔ ∀ s ∈ permuted, s.SoundTable := by
  induction h with
  | nil => exact Iff.rfl
  | cons hfirst _ ih => rw [List.forall_mem_cons, List.forall_mem_cons, hfirst.soundTable_iff, ih]

/-- Building does not depend on the order. -/
theorem Rearranged.conflict_iff (h : Rearranged surfaces others) : Conflict others ↔ Conflict surfaces := by
  obtain ⟨permuted, hperm, hothers⟩ := h
  have hclaimed := (hperm.flatMap_right Surface.claimed).nodup_iff
  rw [← not_iff_not, not_conflict_iff, not_conflict_iff, flatMap_claimed_eq hothers,
    forall_soundTable_iff hothers, hclaimed]
  simp only [hperm.mem_iff]

/-- An opcode leads to the same surface, up to the order of its bindings. -/
theorem surface?_rearranged (h : List.Forall₂ Surface.Rearranged permuted others) (o : Opcode) :
    Option.Rel Surface.Rearranged ((⟨permuted⟩ : Registry σ).surface? o)
      ((⟨others⟩ : Registry σ).surface? o) := by
  induction h with
  | nil => exact .none
  | @cons s t permuted others hfirst _ ih =>
    simp only [surface?, List.find?_cons, hfirst.claimed_eq] at ih ⊢
    split
    · exact .some hfirst
    · exact ih

/-- What a command is answered does not depend on the order. -/
theorem Rearranged.dispatch_eq {r r' : Registry σ} (h : Rearranged surfaces others)
    (hbuild : build surfaces = .ok r) (hbuild' : build others = .ok r') (c : Command) (state : σ) :
    r'.dispatch c state = r.dispatch c state := by
  obtain ⟨permuted, hperm, hothers⟩ := h
  obtain ⟨hsound, hnodup, rfl⟩ := build_eq_ok_iff_sound.1 hbuild
  obtain ⟨-, -, rfl⟩ := build_eq_ok_iff_sound.1 hbuild'
  have hsame : (⟨permuted⟩ : Registry σ).surface? c.opcode = (⟨surfaces⟩ : Registry σ).surface? c.opcode := by
    refine Option.ext fun s => ?_
    have hnodup' := (hperm.flatMap_right Surface.claimed).nodup_iff.1 hnodup
    rw [surface?_eq_some_iff hnodup', surface?_eq_some_iff hnodup, hperm.mem_iff]
  have hrel := surface?_rearranged hothers c.opcode
  rw [hsame] at hrel
  generalize hfound : (⟨surfaces⟩ : Registry σ).surface? c.opcode = found at hrel
  generalize hfound' : (⟨others⟩ : Registry σ).surface? c.opcode = found' at hrel
  cases hrel with
  | none => rw [dispatch, dispatch, hfound, hfound']
  | some hrearranged =>
    have hs := hsound _ (mem_of_surface? hfound)
    cases hrequest : c.request? with
    | none => rw [dispatch_of_request?_none hfound hrequest, dispatch_of_request?_none hfound' hrequest]
    | some request =>
      rw [dispatch_of_surface? hfound hrequest, dispatch_of_surface? hfound' hrequest,
        hrearranged.call_eq hs, hrearranged.reply_eq]

/-- Surfaces build unless they conflict. Then every get and set runs the handler bound to its opcode and
variable, on the one surface that claims the opcode, and is answered with what the handler comes to; without a
handler it is not implemented and does nothing. The order of the surfaces and of their bindings makes no
difference to any of this. -/
theorem build_dispatch (surfaces : List (Surface σ)) :
    ((∃ fault, build surfaces = .error fault) ↔ Conflict surfaces) ∧
      (∀ r, build surfaces = .ok r → ∀ c request, c.request? = some request → ∀ state,
        (∀ s ∈ surfaces, ∀ b ∈ s.bindings, b.opcode = c.opcode → b.var = request.var →
          (∀ t ∈ surfaces, c.opcode ∈ t.claimed ↔ t = s) ∧
            r.dispatch c state = (s.reply c (b.handler request state).1, (b.handler request state).2)) ∧
        ((∀ s ∈ surfaces, ∀ b ∈ s.bindings, ¬(b.opcode = c.opcode ∧ b.var = request.var)) →
          ∃ description, r.dispatch c state = (.notImplemented c.opcode description, state))) ∧
      ∀ others, Rearranged surfaces others →
        ((∃ fault, build others = .error fault) ↔ ∃ fault, build surfaces = .error fault) ∧
        ∀ r r', build surfaces = .ok r → build others = .ok r' →
          ∀ c state, r'.dispatch c state = r.dispatch c state := by
  refine ⟨exists_fault_iff, fun r hbuild c request hrequest state => ⟨?bound, ?unbound⟩,
    fun others h => ⟨?builds, fun r r' hbuild hbuild' => h.dispatch_eq hbuild hbuild'⟩⟩
  case bound =>
    intro s hs b hb hopcode hvar
    refine ⟨fun t ht => ?_, dispatch_of_binding hbuild hs hb hrequest hopcode hvar state⟩
    rw [← hopcode, mem_claimed_iff_of_binding hbuild hs hb ht]
  case unbound =>
    intro hunbound
    obtain ⟨-, -, rfl⟩ := build_eq_ok_iff_sound.1 hbuild
    exact dispatch_of_unbound _ hrequest hunbound state
  case builds => rw [exists_fault_iff, exists_fault_iff, h.conflict_iff]

/-- Two surfaces bind the same variable. In either order a set runs the second handler of the first surface and
no other, and a variable that only the get is bound to cannot be set. A surface does not go together with
itself. -/
theorem build_dispatch_pair :
    let tell : Handler Nat := fun _ n => (.ok (some (.integer (Int32.ofNat n))), n)
    let raise : Handler Nat := fun _ n => (.ok none, n + 10)
    let person : Surface Nat := ⟨"person", ⟨.getPerson, .setPerson, .subscribePerson, .getPersonResponse,
      .subscribePersonResponse⟩, fun _ => none, [⟨.getPerson, 1, tell⟩, ⟨.setPerson, 1, raise⟩, ⟨.getPerson, 2, tell⟩]⟩
    let clock : Surface Nat := ⟨"clock", ⟨.getSimulation, .setSimulation, .subscribeSimulation,
      .getSimulationResponse, .subscribeSimulationResponse⟩, fun _ => none, [⟨.setSimulation, 1, tell⟩]⟩
    let turned := { person with bindings := person.bindings.reverse }
    let set (var : UInt8) : Command := .set .setPerson var "" (.integer 0)
    build [person, clock] = .ok ⟨[person, clock]⟩ ∧ build [clock, turned] = .ok ⟨[clock, turned]⟩ ∧
      Rearranged [person, clock] [clock, turned] ∧
      dispatch ⟨[person, clock]⟩ (set 1) 5 = (.ok .setPerson, 15) ∧
      dispatch ⟨[clock, turned]⟩ (set 1) 5 = (.ok .setPerson, 15) ∧
      (∃ description, dispatch ⟨[person, clock]⟩ (set 2) 5 = (.notImplemented .setPerson description, 5)) ∧
      Conflict [person, turned] := by
  intro tell raise person clock turned set
  have hbuild : build [person, clock] = .ok ⟨[person, clock]⟩ := rfl
  have hbuild' : build [clock, turned] = .ok ⟨[clock, turned]⟩ := rfl
  have hturned : person.Rearranged turned := ⟨rfl, rfl, rfl, List.reverse_perm _⟩
  have horder : Rearranged [person, clock] [clock, turned] :=
    ⟨[clock, person], .swap _ _ _, .cons ⟨rfl, rfl, rfl, .refl _⟩ (.cons hturned .nil)⟩
  obtain ⟨-, hruns, hsame⟩ := build_dispatch [person, clock]
  have hset : dispatch ⟨[person, clock]⟩ (set 1) 5 = (.ok .setPerson, 15) :=
    ((hruns _ hbuild (set 1) _ rfl 5).1 person List.mem_cons_self ⟨.setPerson, 1, raise⟩
      (List.mem_cons_of_mem _ List.mem_cons_self) rfl rfl).2
  refine ⟨hbuild, hbuild', horder, hset, ?_, ?_, (build_dispatch [person, turned]).1.1 ⟨_, rfl⟩⟩
  · exact ((hsame _ horder).2 _ _ hbuild hbuild' (set 1) 5).trans hset
  · refine (hruns _ hbuild (set 2) _ rfl 5).2 ?_
    simp only [person, clock, set, List.forall_mem_cons, Command.opcode]
    decide

end Registry

end PedestrianControl
