import PedestrianControl.Files.Store
import PedestrianControl.Proofs.Files.Path

/-!
# What making directories and writing a file changes

`Grows path before after` says that a store is another one with missing directories on the way to a path. Making
the directories of a path does no more, whether it works or fails on the way (`grows_ensureDirectories`), and
writing a file below a directory changes at most what is at that one location (`of_write_join`). After both, what
differs is the file or one of the new directories (`Grows.at?_set_cases`).
-/

namespace PedestrianControl.FileStore

/-! ## Targets -/

/-- The location that a target is at, or would be. -/
def Target.location : Target → Location
  | .present location _ => location
  | .absent directory name => directory ++ [name]

/-- What is there. -/
def Target.entry? : Target → Option Entry
  | .present _ entry => some entry
  | .absent .. => none

variable {s before between after : FileStore} {location directory : Location} {path name : String}

/-! ## What is at a location -/

/-- Where an entry is put, it is found; everywhere else, what was there before. -/
theorem lookup_put (location l : Location) (entry : Entry) (entries : List (Location × Entry)) :
    (put location entry entries).lookup l = if l = location then some entry else entries.lookup l := by
  induction entries with
  | nil =>
    rw [put, List.lookup_cons]
    by_cases hl : l = location
    · rw [if_pos hl, beq_iff_eq.2 hl]
    · rw [if_neg hl, beq_eq_false_iff_ne.2 hl]
  | cons first entries ih =>
    rw [put]
    by_cases hfirst : first.1 = location
    · rw [if_pos hfirst, List.lookup_cons, List.lookup_cons, hfirst]
      by_cases hl : l = location
      · rw [if_pos hl, beq_iff_eq.2 hl]
      · rw [if_neg hl, beq_eq_false_iff_ne.2 hl]
    · rw [if_neg hfirst, List.lookup_cons, List.lookup_cons, ih]
      by_cases hl : l = first.1
      · have hne : l ≠ location := hl.symm ▸ hfirst
        rw [if_neg hne, if_neg hne]
      · rw [beq_eq_false_iff_ne.2 hl]

/-- A location that is set holds the entry. -/
theorem at?_set_self (hlocation : location ≠ []) (entry : Entry) :
    (s.set location entry).at? location = some entry := by
  rw [at?, if_neg (by simpa using hlocation), set, lookup_put, if_pos rfl]

/-- Every other location holds what it held. -/
theorem at?_set_of_ne {l : Location} (h : l ≠ location) (entry : Entry) :
    (s.set location entry).at? l = s.at? l := by
  rw [at?, at?, set, lookup_put, if_neg h]

/-! ## Following paths -/

/-- What the last name of a followed path is of: a name that a directory can take, neither dot nor dots. -/
structure IsStep (name : String) : Prop where
  ne_dot : name ≠ "."
  ne_dots : name ≠ ".."
  size_le : name.utf8ByteSize ≤ nameLimit

/-- The ways in which a path with a first name leads somewhere. -/
theorem follow_cons_ok {rest : List String} {target : Target}
    (h : s.follow location (name :: rest) = .ok target) :
    s.at? location = some .directory ∧
      (name = "." ∧ s.follow location rest = .ok target ∨
        name = ".." ∧ s.follow location.dropLast rest = .ok target ∨
        IsStep name ∧ s.at? (location ++ [name]) ≠ none ∧ s.follow (location ++ [name]) rest = .ok target ∨
        IsStep name ∧ s.at? (location ++ [name]) = none ∧ rest = [] ∧ target = .absent location name) := by
  unfold follow at h
  split at h
  · cases h
  · rename_i hat
    refine ⟨not_not.1 hat, ?_⟩
    split at h
    · rename_i hdot
      exact .inl ⟨hdot, h⟩
    · rename_i hdot
      split at h
      · rename_i hdots
        exact .inr (.inl ⟨hdots, h⟩)
      · rename_i hdots
        split at h
        · cases h
        · rename_i hsize
          have hstep : IsStep name := ⟨hdot, hdots, Nat.le_of_not_lt hsize⟩
          split at h
          · rename_i entry hentry
            exact .inr (.inr (.inl ⟨hstep, by rw [hentry]; exact Option.some_ne_none _, h⟩))
          · rename_i hnone
            exact .inr (.inr (.inr ⟨hstep, hnone, rfl, (Except.ok.inj h).symm⟩))
          · cases h

/-- A single dot stays in the directory. -/
theorem follow_dot (hat : s.at? location = some .directory) (rest : List String) :
    s.follow location ("." :: rest) = s.follow location rest := by
  rw [follow.eq_def]
  simp only [hat, ne_eq, not_true_eq_false, if_false, if_true]

/-- Two dots lead one directory up. -/
theorem follow_dots (hat : s.at? location = some .directory) (rest : List String) :
    s.follow location (".." :: rest) = s.follow location.dropLast rest := by
  rw [follow.eq_def]
  simp only [hat, ne_eq, not_true_eq_false, if_false, if_true, show (".." = ".") = False from by decide]

/-- A name that is there leads one location down. -/
theorem follow_step (hat : s.at? location = some .directory) (hname : IsStep name)
    (hthere : s.at? (location ++ [name]) ≠ none) (rest : List String) :
    s.follow location (name :: rest) = s.follow (location ++ [name]) rest := by
  obtain ⟨entry, hentry⟩ := Option.ne_none_iff_exists'.1 hthere
  rw [follow.eq_2 s location name rest entry hentry, if_neg (not_not.2 hat), if_neg hname.ne_dot,
    if_neg hname.ne_dots, if_neg (Nat.not_lt.2 hname.size_le)]

/-- A path without names leads to what is at the location. -/
theorem follow_nil_ok {target : Target} (h : s.follow location [] = .ok target) :
    ∃ entry, s.at? location = some entry ∧ target = .present location entry := by
  rw [follow] at h
  split at h
  · rename_i entry hentry
    exact ⟨entry, hentry, (Except.ok.inj h).symm⟩
  · cases h

/-- What is followed to a directory begins at one. -/
theorem at?_of_follow_directory {names : List String}
    (h : s.follow location names = .ok (.present directory .directory)) :
    s.at? location = some .directory := by
  cases names with
  | cons name rest => exact (follow_cons_ok h).1
  | nil =>
    obtain ⟨entry, hentry, heq⟩ := follow_nil_ok h
    cases heq
    exact hentry

/-- Single dots make no difference on the way to a directory. -/
theorem follow_directory_iff_filter {names : List String} :
    s.follow location names = .ok (.present directory .directory) ↔
      s.follow location (names.filter fun piece => piece != ".") =
        .ok (.present directory .directory) := by
  induction names generalizing location with
  | nil => rfl
  | cons name rest ih =>
    by_cases hdot : name = "."
    · subst hdot
      rw [List.filter_cons_of_neg (by decide), ← ih]
      refine ⟨fun h => ?_, fun h => ?_⟩
      · rwa [follow_dot (follow_cons_ok h).1] at h
      · rwa [follow_dot (at?_of_follow_directory h)]
    · have hkept : (name :: rest).filter (fun piece => piece != ".") =
          name :: rest.filter fun piece => piece != "." :=
        List.filter_cons_of_pos (bne_iff_ne.2 hdot)
      rw [hkept]
      constructor
      · intro h
        obtain ⟨hat, ⟨rfl, hrest⟩ | ⟨rfl, hrest⟩ | ⟨hstep, hthere, hrest⟩ | ⟨-, -, -, habsent⟩⟩ :=
          follow_cons_ok h
        · exact absurd rfl hdot
        · rwa [follow_dots hat, ← ih]
        · rwa [follow_step hat hstep hthere, ← ih]
        · cases habsent
      · intro h
        obtain ⟨hat, ⟨rfl, hrest⟩ | ⟨rfl, hrest⟩ | ⟨hstep, hthere, hrest⟩ | ⟨-, -, -, habsent⟩⟩ :=
          follow_cons_ok h
        · exact absurd rfl hdot
        · rwa [follow_dots hat, ih]
        · rwa [follow_step hat hstep hthere, ih]
        · cases habsent

/-- What a path leads to is there, or is not, as the target has it. -/
theorem at?_of_follow {names : List String} {target : Target} (h : s.follow location names = .ok target) :
    s.at? target.location = target.entry? := by
  induction names generalizing location with
  | nil =>
    obtain ⟨entry, hentry, rfl⟩ := follow_nil_ok h
    exact hentry
  | cons name rest ih =>
    obtain ⟨-, ⟨-, hrest⟩ | ⟨-, hrest⟩ | ⟨-, -, hrest⟩ | ⟨-, hnone, -, rfl⟩⟩ := follow_cons_ok h
    · exact ih hrest
    · exact ih hrest
    · exact ih hrest
    · exact hnone

/-- Something is where a path is followed from. -/
theorem at?_ne_none_of_follow {names : List String} {target : Target}
    (h : s.follow location names = .ok target) : s.at? location ≠ none := by
  cases names with
  | nil =>
    obtain ⟨entry, hentry, -⟩ := follow_nil_ok h
    rw [hentry]
    exact Option.some_ne_none _
  | cons name rest =>
    rw [(follow_cons_ok h).1]
    exact Option.some_ne_none _

/-- In a store that has all directories of the first, names lead to the same location as soon as something is
there, whether anything was before or not. -/
theorem follow_of_put {names : List String} {target : Target} {entry : Entry}
    (hkeeps : ∀ l, before.at? l = some .directory → after.at? l = some .directory)
    (h : before.follow location names = .ok target) (hput : after.at? target.location = some entry) :
    after.follow location names = .ok (.present target.location entry) := by
  induction names generalizing location with
  | nil =>
    obtain ⟨was, -, rfl⟩ := follow_nil_ok h
    have hthere : after.at? location = some entry := hput
    rw [follow, hthere]
    rfl
  | cons name rest ih =>
    obtain ⟨hat, ⟨rfl, hrest⟩ | ⟨rfl, hrest⟩ | ⟨hstep, -, hrest⟩ | ⟨hstep, -, rfl, rfl⟩⟩ :=
      follow_cons_ok h
    · rw [follow_dot (hkeeps _ hat)]
      exact ih hrest
    · rw [follow_dots (hkeeps _ hat)]
      exact ih hrest
    · have hafter := ih hrest
      rw [follow_step (hkeeps _ hat) hstep (at?_ne_none_of_follow hafter)]
      exact hafter
    · have hthere : after.at? (location ++ [name]) = some entry := hput
      rw [follow_step (hkeeps _ hat) hstep (by rw [hthere]; exact Option.some_ne_none _), follow, hthere]
      rfl

/-- The way to a directory is still there in a store that has all directories of the first. -/
theorem follow_directory_of_keeps {names : List String}
    (hkeeps : ∀ l, before.at? l = some .directory → after.at? l = some .directory)
    (h : before.follow location names = .ok (.present directory .directory)) :
    after.follow location names = .ok (.present directory .directory) :=
  follow_of_put hkeeps h (hkeeps _ (at?_of_follow h))

/-- A path that ends in a name leads through a directory, to what that has under the name. -/
theorem follow_append_singleton {names : List String} {target : Target} (hdot : name ≠ ".")
    (hdots : name ≠ "..") (h : s.follow location (names ++ [name]) = .ok target) :
    ∃ directory, s.follow location names = .ok (.present directory .directory) ∧
      ((∃ entry, s.at? (directory ++ [name]) = some entry ∧
          target = .present (directory ++ [name]) entry) ∨
        s.at? (directory ++ [name]) = none ∧ target = .absent directory name) := by
  induction names generalizing location with
  | nil =>
    obtain ⟨hat, ⟨rfl, -⟩ | ⟨rfl, -⟩ | ⟨-, hthere, hrest⟩ | ⟨-, hnone, -, habsent⟩⟩ := follow_cons_ok h
    · exact absurd rfl hdot
    · exact absurd rfl hdots
    · obtain ⟨entry, hentry⟩ := Option.ne_none_iff_exists'.1 hthere
      rw [follow, hentry] at hrest
      exact ⟨location, by rw [follow, hat], .inl ⟨entry, hentry, (Except.ok.inj hrest).symm⟩⟩
    · exact ⟨location, by rw [follow, hat], .inr ⟨hnone, habsent⟩⟩
  | cons first rest ih =>
    obtain ⟨hat, ⟨rfl, hrest⟩ | ⟨rfl, hrest⟩ | ⟨hstep, hthere, hrest⟩ | ⟨-, -, hnil, -⟩⟩ :=
      follow_cons_ok h
    · rw [follow_dot hat]
      exact ih hrest
    · rw [follow_dots hat]
      exact ih hrest
    · rw [follow_step hat hstep hthere]
      exact ih hrest
    · cases rest <;> cases hnil

/-! ## Directories on the way -/

/-- Where following a path begins. -/
def start (s : FileStore) (path : String) : Location :=
  if Path.isAbsolute path then [] else s.workingDirectory

/-- The path leads to a directory, and the directory is at this location. -/
def LeadsTo (s : FileStore) (path : String) (directory : Location) : Prop :=
  s.follow (s.start path) (Path.pieces path) = .ok (.present directory .directory)

/-- The path leads through this directory, or to it: some of its first pieces do. -/
def LeadsThrough (s : FileStore) (path : String) (directory : Location) : Prop :=
  ∃ way, way <+: Path.pieces path ∧
    s.follow (s.start path) way = .ok (.present directory .directory)

/-- Where a directory above a path is, the path leads through it. -/
theorem LeadsTo.leadsThrough {above : String} (habove : above ∈ Path.ancestors path)
    (h : s.LeadsTo above directory) : s.LeadsThrough path directory := by
  obtain ⟨habsolute, way, hway, hfilter⟩ := Path.of_mem_ancestors habove
  refine ⟨way, hway, ?_⟩
  rw [LeadsTo, start, habsolute, follow_directory_iff_filter] at h
  rw [follow_directory_iff_filter, ← hfilter]
  exact h

/-- The second store is the first with missing directories on the way to a path. -/
structure Grows (path : String) (before after : FileStore) : Prop where
  workingDirectory_eq : after.workingDirectory = before.workingDirectory
  at?_cases : ∀ l, after.at? l = before.at? l ∨
    before.at? l = none ∧ after.at? l = some .directory ∧ after.LeadsThrough path l

theorem Grows.refl (path : String) (s : FileStore) : Grows path s s := ⟨rfl, fun _ => .inl rfl⟩

/-- A directory stays one while a store grows. -/
theorem Grows.keeps (h : Grows path before after) (l : Location)
    (hl : before.at? l = some .directory) : after.at? l = some .directory := by
  rcases h.at?_cases l with heq | ⟨-, hdirectory, -⟩
  · rw [heq, hl]
  · exact hdirectory

/-- A path that leads through a directory does so wherever the directories are kept. -/
theorem LeadsThrough.of_keeps (h : before.LeadsThrough path directory)
    (hworking : after.workingDirectory = before.workingDirectory)
    (hkeeps : ∀ l, before.at? l = some .directory → after.at? l = some .directory) :
    after.LeadsThrough path directory := by
  obtain ⟨way, hway, hfollow⟩ := h
  refine ⟨way, hway, ?_⟩
  rw [start, hworking]
  exact follow_directory_of_keeps hkeeps hfollow

/-- A path that leads to a directory does so wherever the directories are kept. -/
theorem LeadsTo.of_keeps (h : before.LeadsTo path directory)
    (hworking : after.workingDirectory = before.workingDirectory)
    (hkeeps : ∀ l, before.at? l = some .directory → after.at? l = some .directory) :
    after.LeadsTo path directory := by
  rw [LeadsTo, start, hworking]
  exact follow_directory_of_keeps hkeeps h

/-- To grow twice for one path is to grow for it. -/
theorem Grows.trans (h : Grows path before between) (h' : Grows path between after) :
    Grows path before after where
  workingDirectory_eq := h'.workingDirectory_eq.trans h.workingDirectory_eq
  at?_cases l := by
    rcases h'.at?_cases l with heq | ⟨hnone, hdirectory, hway⟩
    · rcases h.at?_cases l with heq' | ⟨hnone, hdirectory, hway⟩
      · exact .inl (heq.trans heq')
      · exact .inr ⟨hnone, heq.trans hdirectory, hway.of_keeps h'.workingDirectory_eq h'.keeps⟩
    · rcases h.at?_cases l with heq' | ⟨-, hdirectory', -⟩
      · exact .inr ⟨heq'.symm.trans hnone, hdirectory, hway⟩
      · rw [hnone] at hdirectory'
        cases hdirectory'

/-! ## Making directories -/

/-- The store that an action leaves behind, done or failed. -/
def leftBy {α : Type} : EStateM.Result IoError FileStore α → FileStore
  | .ok _ s => s
  | .error _ s => s

/-- A path is followed from where it starts, name by name. -/
theorem trace_eq_ok {target : Target} (h : s.trace path = .ok target) :
    s.follow (s.start path) (Path.pieces path) = .ok target := by
  rw [trace] at h
  split at h
  · cases h
  · split at h
    · cases h
    · split at h
      · cases h
      · exact h

/-- Making a directory above the path makes the store grow for the path, or leaves it. -/
theorem grows_makeDirectory {above : String} (habove : above ∈ Path.ancestors path) (s : FileStore) :
    Grows path s (leftBy (makeDirectory above s)) := by
  rw [makeDirectory]
  split
  · rename_i directory name htrace
    have hfollow := trace_eq_ok htrace
    have hnone : s.at? (directory ++ [name]) = none := at?_of_follow hfollow
    have hself : (s.set (directory ++ [name]) .directory).at? (directory ++ [name]) = some .directory :=
      at?_set_self (by simp) _
    have hkeeps (l : Location) (hl : s.at? l = some .directory) :
        (s.set (directory ++ [name]) .directory).at? l = some .directory := by
      by_cases heq : l = directory ++ [name]
      · rw [heq, hself]
      · rw [at?_set_of_ne heq, hl]
    refine ⟨rfl, fun l => ?_⟩
    by_cases heq : l = directory ++ [name]
    · have hleads : (s.set (directory ++ [name]) .directory).LeadsTo above (directory ++ [name]) :=
        follow_of_put hkeeps hfollow hself
      rw [heq]
      exact .inr ⟨hnone, hself, hleads.leadsThrough habove⟩
    · exact .inl (at?_set_of_ne heq _)
  · exact Grows.refl _ _
  · exact Grows.refl _ _

/-- Making a directory above the path unless it is there makes the store grow for the path. -/
theorem grows_ensureDirectory {above : String} (habove : above ∈ Path.ancestors path) (s : FileStore) :
    Grows path s (leftBy (ensureDirectory above s)) := by
  have hmake := grows_makeDirectory habove s
  rw [ensureDirectory]
  cases hmade : makeDirectory above s with
  | ok a made =>
    rw [hmade] at hmake
    exact hmake
  | error e failed =>
    rw [hmade] at hmake
    dsimp only
    split <;> exact hmake

/-- One action after the other makes no more than directories on the way if neither does. -/
theorem grows_bind {first : FileAction PUnit} {next : PUnit → FileAction PUnit}
    (hfirst : ∀ s, Grows path s (leftBy (first s))) (hnext : ∀ a s, Grows path s (leftBy (next a s)))
    (s : FileStore) : Grows path s (leftBy ((first >>= next) s)) := by
  have hs := hfirst s
  show Grows path s (leftBy (EStateM.bind first next s))
  rw [EStateM.bind]
  cases hresult : first s with
  | ok a between =>
    rw [hresult] at hs
    exact hs.trans (hnext a between)
  | error e failed =>
    rw [hresult] at hs
    exact hs

/-- Making several directories above the path makes the store grow for the path. -/
theorem grows_ensureTree {paths : List String} (hpaths : ∀ above ∈ paths, above ∈ Path.ancestors path)
    (s : FileStore) : Grows path s (leftBy (ensureTree paths s)) := by
  induction paths generalizing s with
  | nil => exact Grows.refl _ _
  | cons above rest ih =>
    obtain ⟨habove, hrest⟩ := List.forall_mem_cons.1 hpaths
    have hensure := grows_ensureDirectory habove s
    rw [ensureTree]
    dsimp only
    cases hmade : ensureDirectory above s with
    | ok a made =>
      rw [hmade] at hensure
      exact hensure
    | error e failed =>
      rw [hmade] at hensure
      dsimp only
      split
      · exact hensure.trans (grows_bind (ih hrest) (fun _ => grows_ensureDirectory habove) failed)
      · exact hensure

/-- Making the directories of a path changes nothing but that directories on the way are there, also where it
fails. -/
theorem grows_ensureDirectories (path : String) (s : FileStore) :
    Grows path s (leftBy (ensureDirectories path s)) := by
  rw [ensureDirectories]
  cases hpaths : Path.ancestors path with
  | nil => exact Grows.refl _ _
  | cons first rest => exact grows_ensureTree (fun above h => hpaths ▸ h) s

/-! ## Writing a file -/

/-- What is found at a path is where the path leads. -/
theorem trace_of_locate {target : Target} (h : s.locate path = .ok target) : s.trace path = .ok target := by
  rw [locate] at h
  split at h
  · rename_i htrace
    split at h
    · cases h
    · rw [htrace, h]
  · exact h

/-- A path that ends in a slash leads to no file. -/
theorem endsWith_of_locate_file {content : List UInt8}
    (h : s.locate path = .ok (.present location (.file content))) : path.endsWith "/" = false := by
  rw [locate] at h
  split at h
  · split at h
    · cases h
    · rename_i hslash
      exact Bool.eq_false_iff.2 hslash
  · rename_i hnot
    exact absurd h (hnot _ _)

/-- Writing a file either fails and changes nothing, or puts the content where the path leads, and no directory was
there. -/
theorem write_cases (path : String) (content : List UInt8) (s : FileStore) :
    (∃ e, write path content s = .error e s) ∨
      ∃ target, s.trace path = .ok target ∧ s.at? target.location ≠ some .directory ∧
        path.endsWith "/" = false ∧
        write path content s = .ok ⟨⟩ (s.set target.location (.file content)) := by
  rw [write]
  split
  · rename_i location old hlocate
    have htrace := trace_of_locate hlocate
    refine .inr ⟨_, htrace, ?_, endsWith_of_locate_file hlocate, rfl⟩
    rw [at?_of_follow (trace_eq_ok htrace)]
    exact fun heq => Entry.noConfusion (Option.some.inj heq)
  · rename_i directory name hlocate
    split
    · exact .inl ⟨_, rfl⟩
    · rename_i hslash
      have htrace := trace_of_locate hlocate
      refine .inr ⟨_, htrace, ?_, Bool.eq_false_iff.2 hslash, rfl⟩
      rw [at?_of_follow (trace_eq_ok htrace)]
      exact Option.some_ne_none _ ∘ Eq.symm
  · exact .inl ⟨_, rfl⟩
  · exact .inl ⟨_, rfl⟩

/-- Writing a file below a directory either fails and changes nothing, or puts the content at this one
location, where no directory was. -/
theorem of_write_join (hname : Path.IsName name) (dataPath : String) (content : List UInt8)
    (s : FileStore) :
    (∃ e, write (Path.join dataPath name) content s = .error e s) ∨
      ∃ directory, s.LeadsTo dataPath directory ∧
        s.at? (directory ++ [name]) ≠ some .directory ∧
        write (Path.join dataPath name) content s =
          .ok ⟨⟩ (s.set (directory ++ [name]) (.file content)) := by
  rcases write_cases (Path.join dataPath name) content s with
    hfailed | ⟨target, htrace, hat, -, hwrite⟩
  · exact .inl hfailed
  · have hpath := trace_eq_ok htrace
    rw [Path.pieces_join hname, start, Path.isAbsolute_join hname] at hpath
    obtain ⟨directory, hleads, ⟨entry, -, rfl⟩ | ⟨-, rfl⟩⟩ :=
      follow_append_singleton hname.ne_dot hname.ne_dots hpath
    · exact .inr ⟨directory, hleads, hat, hwrite⟩
    · exact .inr ⟨directory, hleads, hat, hwrite⟩

/-- A file that is put where no directory is leaves all directories. -/
theorem keeps_set {file : Location} (hat : s.at? file ≠ some .directory) (content : List UInt8)
    (l : Location) (hl : s.at? l = some .directory) :
    (s.set file (.file content)).at? l = some .directory := by
  have hne : l ≠ file := fun heq => hat (heq ▸ hl)
  rw [at?_set_of_ne hne, hl]

/-- Once directories were made and a file was put there, what differs is the file or a new directory. -/
theorem Grows.at?_set_cases {file : Location} {content : List UInt8} (h : Grows path before between)
    (hat : between.at? file ≠ some .directory)
    (hdiffers : (between.set file (.file content)).at? location ≠ before.at? location) :
    location = file ∧ before.at? location ≠ some .directory ∨
      before.at? location = none ∧
        (between.set file (.file content)).at? location = some .directory ∧
          (between.set file (.file content)).LeadsThrough path location := by
  by_cases hlocation : location = file
  · exact .inl ⟨hlocation, fun hbefore => hat (hlocation ▸ h.keeps location hbefore)⟩
  · have hsame := at?_set_of_ne (s := between) hlocation (.file content)
    rw [hsame] at hdiffers
    obtain ⟨hnone, hdirectory, hway⟩ := (h.at?_cases location).resolve_left hdiffers
    exact .inr ⟨hnone, hsame.trans hdirectory, hway.of_keeps rfl (keeps_set hat content)⟩

end PedestrianControl.FileStore
