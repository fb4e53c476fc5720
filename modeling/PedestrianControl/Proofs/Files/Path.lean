import Mathlib.Data.List.Basic
import PedestrianControl.Files.Path

/-!
# The last component of a path

`Path.LastName path name` says in terms of characters that a name stands last in a path: a slash or nothing is
before it, and nothing but slashes and single dots after it. `fileName?` finds this name and no other
(`fileName?_eq_some_iff`). Below a directory such a name is one more piece of the path, whatever the
directory's path looks like (`pieces_join`).
-/

namespace PedestrianControl.Path

/-- A name that can stand for a file in a directory: not empty, without a slash, and neither of the names that
every directory has. -/
structure IsName (name : String) : Prop where
  ne_empty : name ≠ ""
  noSlash : '/' ∉ name.toList
  ne_dot : name ≠ "."
  ne_dots : name ≠ ".."

/-- The name stands last in the path. Only slashes come after it, each with nothing or a single dot behind. -/
def LastName (path name : String) : Prop :=
  IsName name ∧ ∃ (before : List Char) (tails : List (List Char)),
    path.toList = before ++ name.toList ++ tails.flatMap ('/' :: ·) ∧
      (before = [] ∨ before.getLast? = some '/') ∧ ∀ t ∈ tails, t = [] ∨ t = ['.']

/-! ## Splitting at slashes -/

/-- Texts behind a slash each are what splitting at slashes gives, after the text in front. -/
theorem splitOn_append_flatMap {first : List Char} {others : List (List Char)} (hfirst : '/' ∉ first)
    (hothers : ∀ t ∈ others, '/' ∉ t) :
    (first ++ others.flatMap ('/' :: ·)).splitOn '/' = first :: others := by
  induction others generalizing first with
  | nil =>
    rw [List.flatMap_nil, List.append_nil]
    exact List.splitOn_eq_singleton hfirst
  | cons second others ih =>
    obtain ⟨hsecond, hrest⟩ := List.forall_mem_cons.1 hothers
    rw [List.flatMap_cons, List.cons_append, List.splitOn_append_cons_self_of_not_mem hfirst,
      ih hsecond hrest]

/-- Every text is a text without slashes and others behind a slash each. -/
theorem exists_eq_append_flatMap (path : List Char) :
    ∃ (first : List Char) (others : List (List Char)),
      path = first ++ others.flatMap ('/' :: ·) ∧ '/' ∉ first ∧ ∀ t ∈ others, '/' ∉ t := by
  induction path with
  | nil => exact ⟨[], [], rfl, List.not_mem_nil, fun t ht => nomatch ht⟩
  | cons c path ih =>
    obtain ⟨first, others, rfl, hfirst, hothers⟩ := ih
    by_cases hc : c = '/'
    · exact ⟨[], first :: others, by rw [hc]; rfl, List.not_mem_nil,
        List.forall_mem_cons.2 ⟨hfirst, hothers⟩⟩
    · exact ⟨c :: first, others, rfl, List.not_mem_cons_of_ne_of_not_mem (Ne.symm hc) hfirst, hothers⟩

/-- What splitting at slashes gives has no slash in it. -/
theorem slash_not_mem_of_mem_splitOn {path piece : List Char} (h : piece ∈ path.splitOn '/') :
    '/' ∉ piece := by
  obtain ⟨first, others, rfl, hfirst, hothers⟩ := exists_eq_append_flatMap path
  rw [splitOn_append_flatMap hfirst hothers] at h
  rcases List.mem_cons.1 h with rfl | h
  · exact hfirst
  · exact hothers piece h

/-- A text between the slashes of a path: where it begins and what comes after it. -/
theorem exists_eq_of_splitOn_eq {path : List Char} {before : List (List Char)} {piece : List Char}
    {tails : List (List Char)} (h : path.splitOn '/' = before ++ piece :: tails) :
    ∃ front, path = front ++ piece ++ tails.flatMap ('/' :: ·) ∧
      (front = [] ∨ front.getLast? = some '/') := by
  obtain ⟨first, others, rfl, hfirst, hothers⟩ := exists_eq_append_flatMap path
  rw [splitOn_append_flatMap hfirst hothers] at h
  cases before with
  | nil =>
    obtain ⟨rfl, rfl⟩ := List.cons.inj h
    exact ⟨[], by rw [List.nil_append], .inl rfl⟩
  | cons second before =>
    obtain ⟨rfl, hrest⟩ := List.cons.inj (h.trans (List.cons_append ..))
    refine ⟨first ++ before.flatMap ('/' :: ·) ++ ['/'], ?_, .inr List.getLast?_concat⟩
    simp only [hrest, List.flatMap_append, List.flatMap_cons, List.append_assoc, List.cons_append,
      List.nil_append]

/-! ## The name found -/

/-- Whether a text between slashes is a component, and not nothing or a single dot. -/
def isComponent (piece : List Char) : Bool := !piece.isEmpty && piece != ['.']

/-- A piece is no component if it is empty or a single dot. -/
theorem isComponent_eq_false_iff {piece : List Char} :
    isComponent piece = false ↔ piece = [] ∨ piece = ['.'] := by
  simp only [isComponent, Bool.and_eq_false_iff, Bool.not_eq_false', List.isEmpty_iff,
    bne_eq_false_iff_eq]

/-- The components are the pieces between the separators that are neither empty nor a single dot. -/
theorem components_eq (path : String) :
    components path = ((path.toList.splitOn '/').filter isComponent).map String.ofList := by
  have hdot (piece : List Char) : (String.ofList piece != ".") = (piece != ['.']) := by
    rw [Bool.eq_iff_iff, bne_iff_ne, bne_iff_ne, Ne, Ne, ← String.toList_inj, String.toList_ofList]
    rfl
  rw [components, pieces, List.filter_map, List.filter_filter]
  congr 2
  funext piece
  rw [Function.comp_apply, hdot, isComponent, Bool.and_comm]

/-- The name found is the last component unless it is two dots. -/
theorem fileName?_eq_some {path name : String} :
    fileName? path = some name ↔
      ((path.toList.splitOn '/').filter isComponent).getLast? = some name.toList ∧ name ≠ ".." := by
  have hlast : (components path).getLast? = some name ↔
      ((path.toList.splitOn '/').filter isComponent).getLast? = some name.toList := by
    rw [components_eq, List.getLast?_map, Option.map_eq_some_iff]
    constructor
    · rintro ⟨chars, hchars, rfl⟩
      rw [hchars, String.toList_ofList]
    · exact fun h => ⟨name.toList, h, String.ofList_toList⟩
  rw [← hlast, fileName?]
  cases (components path).getLast? with
  | none => simp
  | some last =>
    by_cases hdots : last = ".."
    · simp only [hdots, if_pos, reduceCtorEq, Option.some.injEq, false_iff, not_and, not_not]
      exact Eq.symm
    · simp only [hdots, if_false, Option.some.injEq, iff_self_and]
      rintro rfl
      exact hdots

/-- The name found in a path is the one that stands last in it. -/
theorem fileName?_eq_some_iff {path name : String} :
    fileName? path = some name ↔ LastName path name := by
  rw [fileName?_eq_some, List.getLast?_filter, List.find?_eq_some_iff_append]
  constructor
  · rintro ⟨⟨hname, after, before, hsplit, hafter⟩, hdots⟩
    have hsplit' : path.toList.splitOn '/' = before.reverse ++ name.toList :: after.reverse := by
      rw [← List.reverse_reverse (path.toList.splitOn '/'), hsplit, List.reverse_append,
        List.reverse_cons, List.append_assoc]
      rfl
    obtain ⟨front, hpath, hfront⟩ := exists_eq_of_splitOn_eq hsplit'
    have hcomponent : ¬(name.toList = [] ∨ name.toList = ['.']) := fun h =>
      Bool.noConfusion (hname.symm.trans (isComponent_eq_false_iff.2 h))
    refine ⟨⟨?_, ?_, ?_, hdots⟩, front, after.reverse, hpath, hfront, fun t ht => ?_⟩
    · rintro rfl
      exact hcomponent (.inl rfl)
    · exact slash_not_mem_of_mem_splitOn (hsplit' ▸ List.mem_append_right _ List.mem_cons_self)
    · rintro rfl
      exact hcomponent (.inr rfl)
    · have := hafter t (List.mem_reverse.1 ht)
      exact isComponent_eq_false_iff.1 (by simpa using this)
  · rintro ⟨hname, front, tails, hpath, hfront, htails⟩
    have hcomponent : isComponent name.toList = true := by
      rw [← Bool.not_eq_false, isComponent_eq_false_iff]
      rintro (hnil | hdot)
      · exact hname.ne_empty (String.toList_inj.1 hnil)
      · exact hname.ne_dot (String.toList_inj.1 hdot)
    have hslash (t : List Char) (ht : t ∈ tails) : '/' ∉ t := by
      rcases htails t ht with rfl | rfl
      · exact List.not_mem_nil
      · decide
    have hsplit : ∃ before, path.toList.splitOn '/' = before ++ name.toList :: tails := by
      rcases hfront with rfl | hfront
      · exact ⟨[], by rw [hpath, List.nil_append, splitOn_append_flatMap hname.noSlash hslash,
          List.nil_append]⟩
      · obtain ⟨front, rfl⟩ := List.getLast?_eq_some_iff.1 hfront
        refine ⟨front.splitOn '/', ?_⟩
        rw [hpath, List.append_assoc, List.append_assoc, List.singleton_append,
          List.splitOn_append_cons_self, splitOn_append_flatMap hname.noSlash hslash]
    obtain ⟨before, hsplit⟩ := hsplit
    refine ⟨⟨hcomponent, tails.reverse, before.reverse, ?_, fun t ht => ?_⟩, hname.ne_dots⟩
    · rw [hsplit, List.reverse_append, List.reverse_cons, List.append_assoc, List.singleton_append]
    · rw [isComponent_eq_false_iff.2 (htails t (List.mem_reverse.1 ht))]
      rfl

/-- At most one name stands last in a path. -/
theorem LastName.unique {path name name' : String} (h : LastName path name) (h' : LastName path name') :
    name = name' :=
  Option.some.inj ((fileName?_eq_some_iff.2 h).symm.trans (fileName?_eq_some_iff.2 h'))

/-! ## Pieces -/

/-- A piece has something in it, and no slash. -/
theorem of_mem_pieces {path piece : String} (h : piece ∈ pieces path) :
    piece ≠ "" ∧ '/' ∉ piece.toList := by
  obtain ⟨chars, hchars, rfl⟩ := List.mem_map.1 h
  obtain ⟨hmem, hne⟩ := List.mem_filter.1 hchars
  rw [String.toList_ofList]
  refine ⟨fun hempty => ?_, slash_not_mem_of_mem_splitOn hmem⟩
  have hnil : chars = [] := by simpa using congrArg String.toList hempty
  rw [hnil] at hne
  cases hne

/-- The pieces of two paths with a slash between them are those of either. -/
theorem pieces_slash {path a b : String} (h : path.toList = a.toList ++ '/' :: b.toList) :
    pieces path = pieces a ++ pieces b := by
  rw [pieces, h, List.splitOn_append_cons_self, List.filter_append, List.map_append]
  rfl

/-- A text without a slash is its only piece. -/
theorem pieces_eq_singleton {name : String} (hne : name ≠ "") (hslash : '/' ∉ name.toList) :
    pieces name = [name] := by
  have hfull : name.toList.isEmpty = false := by
    rw [List.isEmpty_eq_false_iff]
    exact fun hnil => hne (String.toList_eq_nil_iff.1 hnil)
  rw [pieces, List.splitOn_eq_singleton hslash]
  simp [hfull, String.ofList_toList]

/-- A path is absolute if it begins with a separator. -/
theorem isAbsolute_iff {path : String} : isAbsolute path = true ↔ path.toList.head? = some '/' := by
  rw [isAbsolute, String.startsWith_string_iff]
  cases path.toList with
  | nil => simp
  | cons c rest => simp [eq_comm]

/-- A name in a directory is one more piece of the path. -/
theorem pieces_join {directory name : String} (h : IsName name) :
    pieces (join directory name) = pieces directory ++ [name] := by
  rw [← pieces_eq_singleton h.ne_empty h.noSlash, join]
  split
  · rename_i hdirectory
    rcases Bool.or_eq_true_iff.1 hdirectory with hempty | hslash
    · rw [String.isEmpty_iff.1 hempty, String.empty_append]
      rfl
    · rw [← String.endsWith_toSlice, String.Slice.endsWith_string_iff, String.copy_toSlice] at hslash
      obtain ⟨front, hfront⟩ := hslash
      have hfront : directory.toList = (String.ofList front).toList ++ '/' :: "".toList := by
        rw [String.toList_ofList, ← hfront]
        rfl
      rw [pieces_slash hfront, show pieces "" = [] from rfl, List.append_nil]
      refine pieces_slash ?_
      rw [String.toList_append, hfront, List.append_assoc]
      rfl
  · refine pieces_slash ?_
    rw [String.toList_append, String.toList_append, List.append_assoc]
    rfl

/-- A path to a name in a directory starts where the directory's path does. -/
theorem isAbsolute_join {directory name : String} (h : IsName name) :
    isAbsolute (join directory name) = isAbsolute directory := by
  rw [Bool.eq_iff_iff, isAbsolute_iff, isAbsolute_iff]
  by_cases hempty : directory = ""
  · rw [hempty, show join "" name = "" ++ name from rfl, String.empty_append]
    refine iff_of_false (fun hhead => ?_) (by decide)
    exact h.noSlash (List.mem_of_head? hhead)
  · obtain ⟨c, rest, hchars⟩ := List.exists_cons_of_ne_nil fun hnil =>
      hempty (String.toList_eq_nil_iff.1 hnil)
    have htail : ∃ tail, (join directory name).toList = directory.toList ++ tail := by
      rw [join]
      split
      · exact ⟨_, String.toList_append⟩
      · exact ⟨_, by rw [String.append_assoc, String.toList_append]⟩
    obtain ⟨tail, htail⟩ := htail
    rw [htail, hchars, List.cons_append, List.head?_cons, List.head?_cons]

/-! ## The directories above -/

/-- The pieces of a path made of components are the components. -/
theorem pieces_ofComponents {absolute : Bool} {parts : List String}
    (h : ∀ part ∈ parts, part ≠ "" ∧ '/' ∉ part.toList) : pieces (ofComponents absolute parts) = parts := by
  have hrelative : pieces ("/".intercalate parts) = parts := by
    induction parts with
    | nil => rfl
    | cons part parts ih =>
      obtain ⟨⟨hne, hslash⟩, hparts⟩ := List.forall_mem_cons.1 h
      have hpart : pieces part = [part] := pieces_eq_singleton hne hslash
      cases parts with
      | nil => rw [String.intercalate_singleton, hpart]
      | cons second parts =>
        have hsplit : ("/".intercalate (part :: second :: parts)).toList =
            part.toList ++ '/' :: ("/".intercalate (second :: parts)).toList := by
          rw [String.intercalate_cons_cons, String.toList_append, String.toList_append,
            List.append_assoc]
          rfl
        rw [pieces_slash hsplit, ih hparts, hpart, List.singleton_append]
  cases absolute with
  | false => rw [ofComponents, if_neg Bool.false_ne_true, String.empty_append, hrelative]
  | true =>
    have hslash : (ofComponents true parts).toList =
        "".toList ++ '/' :: ("/".intercalate parts).toList := by
      rw [ofComponents, if_pos rfl, String.toList_append]
      rfl
    rw [pieces_slash hslash, hrelative]
    rfl

/-- A path made of components starts at the root if it was asked to. -/
theorem isAbsolute_ofComponents {absolute : Bool} {part : String} {parts : List String}
    (hne : part ≠ "") (hslash : '/' ∉ part.toList) :
    isAbsolute (ofComponents absolute (part :: parts)) = absolute := by
  cases absolute with
  | true =>
    rw [isAbsolute_iff, ofComponents, if_pos rfl, String.toList_append]
    rfl
  | false =>
    obtain ⟨c, rest, hchars⟩ := List.exists_cons_of_ne_nil fun hnil =>
      hne (String.toList_eq_nil_iff.1 hnil)
    have hhead : (ofComponents false (part :: parts)).toList.head? = some c := by
      rw [ofComponents, if_neg Bool.false_ne_true, String.empty_append, String.toList_intercalate,
        List.map_cons]
      cases parts with
      | nil => simp [hchars]
      | cons second parts => simp [hchars]
    rw [← Bool.not_eq_true, isAbsolute_iff, hhead]
    rintro heq
    rw [hchars, ← Option.some.inj heq] at hslash
    exact hslash List.mem_cons_self

/-- A component is not empty and has no separator in it. -/
theorem of_mem_components {path part : String} (h : part ∈ components path) :
    part ≠ "" ∧ '/' ∉ part.toList :=
  of_mem_pieces (List.mem_of_mem_filter h)

/-- The beginnings of a list are its prefixes with something in them. -/
theorem of_mem_beginnings {α : Type} {as start : List α} (h : start ∈ beginnings as) :
    start <+: as ∧ start ≠ [] := by
  obtain ⟨n, hn, rfl⟩ := List.mem_map.1 (List.mem_reverse.1 h)
  refine ⟨List.take_prefix _ _, fun hnil => ?_⟩
  have hlength := congrArg List.length hnil
  rw [List.length_take, List.length_nil] at hlength
  have := List.mem_range.1 hn
  omega

/-- A directory above a path is found on the way there: it starts where the path does, and its components
are those of some of the path's first pieces. -/
theorem of_mem_ancestors {path above : String} (h : above ∈ ancestors path) :
    isAbsolute above = isAbsolute path ∧
      ∃ way, way <+: pieces path ∧ components above = way.filter fun piece => piece != "." := by
  have hroot : ∃ way, way <+: pieces path ∧ [] = way.filter fun piece => piece != "." :=
    ⟨[], List.nil_prefix, rfl⟩
  have hall (p : String) (hp : p ∈ (beginnings (components path)).map (ofComponents (isAbsolute path)) ++
      if isAbsolute path then ["/"] else if (pieces path).head? = some "." then ["."] else []) :
      isAbsolute p = isAbsolute path ∧
        ∃ way, way <+: pieces path ∧ components p = way.filter fun piece => piece != "." := by
    rcases List.mem_append.1 hp with hp | hp
    · obtain ⟨parts, hparts, rfl⟩ := List.mem_map.1 hp
      obtain ⟨hbegins, hne⟩ := of_mem_beginnings hparts
      have hof (part : String) (hpart : part ∈ parts) : part ≠ "" ∧ '/' ∉ part.toList :=
        of_mem_components (hbegins.subset hpart)
      obtain ⟨way, hway, hfilter⟩ := List.prefix_filter_iff.1 hbegins
      refine ⟨?_, way, hway, ?_⟩
      · obtain ⟨part, rest, rfl⟩ := List.exists_cons_of_ne_nil hne
        obtain ⟨hpart, hslash⟩ := hof part List.mem_cons_self
        exact isAbsolute_ofComponents hpart hslash
      · rw [components, pieces_ofComponents hof, hfilter, List.filter_filter]
        simp
    · split at hp
      · rename_i habsolute
        rw [List.mem_singleton.1 hp, habsolute]
        exact ⟨isAbsolute_iff.2 rfl, hroot⟩
      · rename_i habsolute
        split at hp
        · rw [List.mem_singleton.1 hp, Bool.eq_false_iff.2 habsolute]
          exact ⟨Bool.eq_false_iff.2 (isAbsolute_iff.not.2 (by decide)), hroot⟩
        · cases hp
  rw [ancestors] at h
  split at h
  · cases h
  · rename_i head tail heq
    rcases List.mem_cons.1 h with rfl | h
    · exact ⟨rfl, pieces above, List.prefix_rfl, rfl⟩
    · exact hall above (heq ▸ List.mem_cons_of_mem _ h)

end PedestrianControl.Path
