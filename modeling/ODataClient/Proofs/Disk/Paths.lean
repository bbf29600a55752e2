import Mathlib.Data.List.Infix
import ODataClient.Disk.Path

/-!
# Parts of paths

A path is cut at its slashes, so that what stands on both sides of a slash is cut by itself. Joining
puts parts behind each other, and the directories that lead to a path are beginnings of it.
-/

namespace ODataClient.Path

/-- The parts of a text between slashes that are not empty. -/
def namesIn (characters : List Char) : List String :=
  ((splitChars characters).map String.ofList).filter (· ≠ "")

section Splitting

theorem splitChars_ne_nil (characters : List Char) : splitChars characters ≠ [] := by
  cases characters with
  | nil => simp [splitChars]
  | cons c rest =>
      simp only [splitChars]
      split
      · simp
      · split <;> simp

theorem splitChars_append (before after : List Char) :
    splitChars (before ++ '/' :: after) = splitChars before ++ splitChars after := by
  induction before with
  | nil => simp [splitChars]
  | cons c before ih =>
      by_cases slash : c = '/'
      · simp [splitChars, slash, ih]
      · cases pieces : splitChars before with
        | nil => exact absurd pieces (splitChars_ne_nil before)
        | cons piece others => simp [splitChars, slash, ih, pieces]

theorem splitChars_of_notMem {characters : List Char} (plain : '/' ∉ characters) :
    splitChars characters = [characters] := by
  induction characters with
  | nil => rfl
  | cons c rest ih =>
      simp only [List.mem_cons, not_or] at plain
      simp [splitChars, Ne.symm plain.1, ih plain.2]

theorem notMem_of_mem_splitChars {characters piece : List Char}
    (member : piece ∈ splitChars characters) : '/' ∉ piece := by
  induction characters generalizing piece with
  | nil => simp_all [splitChars]
  | cons c rest ih =>
      cases pieces : splitChars rest with
      | nil => exact absurd pieces (splitChars_ne_nil rest)
      | cons first others =>
          by_cases slash : c = '/'
          · simp only [splitChars, slash, if_true, List.mem_cons] at member
            obtain rfl | later := member
            · simp
            · exact ih later
          · simp only [splitChars, slash, if_false, pieces, List.mem_cons] at member
            obtain rfl | later := member
            · have plain : '/' ∉ first := ih (by simp [pieces])
              simp [plain, Ne.symm slash]
            · exact ih (by simp [pieces, later])

end Splitting

section Names

variable {path : String} {characters : List Char}

@[simp]
theorem namesIn_nil : namesIn [] = [] := rfl

theorem components_eq (path : String) : components path = namesIn path.toList := rfl

@[simp]
theorem components_empty : components "" = [] := rfl

theorem namesIn_append (before after : List Char) :
    namesIn (before ++ '/' :: after) = namesIn before ++ namesIn after := by
  simp [namesIn, splitChars_append]

/-- What is put behind a slash at the end of a path stands behind its names. -/
theorem namesIn_append_of_getLast? {before : List Char} (after : List Char)
    (slash : before.getLast? = some '/') :
    namesIn (before ++ after) = namesIn before ++ namesIn after := by
  obtain ⟨beginning, rfl⟩ := List.getLast?_eq_some_iff.1 slash
  have cut := namesIn_append beginning []
  rw [namesIn_nil, List.append_nil] at cut
  rw [cut, ← namesIn_append, List.append_assoc]
  rfl

theorem components_of_notMem {piece : String} (plain : '/' ∉ piece.toList) :
    components piece = [piece].filter (· ≠ "") := by
  rw [components_eq, namesIn, splitChars_of_notMem plain]
  simp

theorem notMem_of_mem_pieces {piece : String} (member : piece ∈ pieces path) :
    '/' ∉ piece.toList := by
  obtain ⟨characters, isPiece, rfl⟩ := List.mem_map.1 member
  rw [String.toList_ofList]
  exact notMem_of_mem_splitChars isPiece

end Names

section Joining

variable {base piece : String}

theorem isAbsolute_of_notMem (plain : '/' ∉ piece.toList) : isAbsolute piece = false := by
  cases characters : piece.toList with
  | nil => simp [isAbsolute, characters]
  | cons c rest =>
      rw [characters, List.mem_cons, not_or] at plain
      simp [isAbsolute, characters, Ne.symm plain.1]

theorem components_join (plain : '/' ∉ piece.toList) :
    components (join base piece) = components base ++ components piece := by
  rw [join, isAbsolute_of_notMem plain]
  by_cases empty : base = ""
  · simp [empty]
  · by_cases slash : meansDirectory base = true
    · have last : base.toList.getLast? = some '/' := by simpa [meansDirectory] using slash
      simp [empty, slash, components_eq, namesIn_append_of_getLast? _ last]
    · have slashed : (base ++ "/" ++ piece).toList = base.toList ++ '/' :: piece.toList := by
        simp
      simp [empty, slash, components_eq, slashed, namesIn_append]

theorem isAbsolute_join (plain : '/' ∉ piece.toList) :
    isAbsolute (join base piece) = isAbsolute base := by
  rw [join, isAbsolute_of_notMem plain]
  by_cases empty : base = ""
  · have relative : isAbsolute "" = false := rfl
    simp [empty, isAbsolute_of_notMem plain, relative]
  · have nonempty : base.toList ≠ [] := by simpa using empty
    obtain ⟨c, rest, characters⟩ := List.exists_cons_of_ne_nil nonempty
    by_cases slash : meansDirectory base = true <;> simp [empty, slash, isAbsolute, characters]

theorem components_foldl_join {parts : List String} (plain : ∀ piece ∈ parts, '/' ∉ piece.toList) :
    components (parts.foldl join base) = components base ++ parts.filter (· ≠ "") ∧
      isAbsolute (parts.foldl join base) = isAbsolute base := by
  induction parts generalizing base with
  | nil => simp
  | cons piece parts ih =>
      obtain ⟨first, others⟩ := List.forall_mem_cons.1 plain
      obtain ⟨names, origin⟩ := @ih (join base piece) others
      rw [List.foldl_cons, names, origin, components_join first, isAbsolute_join first,
        components_of_notMem first, List.append_assoc, ← List.filter_append]
      simp

/-- A path below a directory first leads to that directory. -/
theorem components_below (base path : String) :
    components (below base path) = components base ++ components path :=
  (components_foldl_join fun _ => notMem_of_mem_pieces).1

theorem isAbsolute_below (base path : String) : isAbsolute (below base path) = isAbsolute base :=
  (components_foldl_join fun _ => notMem_of_mem_pieces).2

end Joining

section Ancestors

/-- What is cut off at the end ends at a slash, unless all or nothing is cut off. -/
theorem trimmedFromEnd_cases (reversed : List Char) :
    trimmedFromEnd reversed = reversed ∨ trimmedFromEnd reversed = [] ∨
      ∃ cut, reversed = cut ++ '/' :: trimmedFromEnd reversed := by
  fun_induction trimmedFromEnd reversed with
  | case1 rest ih =>
      obtain same | none | ⟨cut, split⟩ := ih
      · exact .inr (.inr ⟨[], by rw [same]; rfl⟩)
      · exact .inr (.inl none)
      · exact .inr (.inr ⟨'/' :: cut, by rw [List.cons_append, ← split]⟩)
  | case2 => exact .inr (.inl rfl)
  | case3 rest ih =>
      obtain same | none | ⟨cut, split⟩ := ih
      · exact .inr (.inr ⟨['.'], by rw [same]; rfl⟩)
      · exact .inr (.inl none)
      · exact .inr (.inr ⟨'.' :: '/' :: cut, by
          rw [List.cons_append, List.cons_append, ← split]⟩)
  | case4 => exact .inl rfl

theorem suffix_trimmedFromEnd (reversed : List Char) : trimmedFromEnd reversed <:+ reversed := by
  obtain same | none | ⟨cut, split⟩ := trimmedFromEnd_cases reversed
  · rw [same]
  · rw [none]
    exact List.nil_suffix
  · exact ⟨cut ++ ['/'], by rw [List.append_assoc]; exact split.symm⟩

/-- Behind the last name, the path is cut at a slash or altogether. -/
theorem trimmedFromEnd_dropWhile_cases (reversed : List Char) :
    trimmedFromEnd (reversed.dropWhile (· ≠ '/')) = [] ∨
      ∃ cut, reversed = cut ++ '/' :: trimmedFromEnd (reversed.dropWhile (· ≠ '/')) := by
  have whole := List.takeWhile_append_dropWhile (p := (· ≠ '/')) (l := reversed)
  cases rest : reversed.dropWhile (· ≠ '/') with
  | nil => exact .inl rfl
  | cons c tail =>
      have slash : c = '/' := by
        have first := List.head?_dropWhile_not (· ≠ '/') reversed
        rw [rest] at first
        simpa using first
      subst slash
      rw [rest] at whole
      have next : trimmedFromEnd ('/' :: tail) = trimmedFromEnd tail := rfl
      rw [next]
      obtain same | none | ⟨cut, split⟩ := trimmedFromEnd_cases tail
      · exact .inr ⟨_, by rw [same]; exact whole.symm⟩
      · exact .inl none
      · refine .inr ⟨reversed.takeWhile (· ≠ '/') ++ '/' :: cut, ?_⟩
        rw [List.append_assoc, List.cons_append, ← split]
        exact whole.symm

theorem splitStart_append (path : String) :
    (splitStart path).1 ++ (splitStart path).2 = path.toList := by
  rw [splitStart]
  split <;> simp_all

theorem splitStart_cases (path : String) : (splitStart path).1 = [] ∨
    (splitStart path).1 = ['/'] ∨
      (splitStart path).1 = ['.'] ∧ ((splitStart path).2 = [] ∨
        ∃ rest, (splitStart path).2 = '/' :: rest) := by
  rw [splitStart]
  split <;> simp

/-- Beginnings of a path that end where one of its names ends. -/
structure LeadsTo (before path : String) : Prop where
  nonempty : before ≠ ""
  names : components before <+: components path
  origin : isAbsolute before = isAbsolute path

theorem LeadsTo.refl {path : String} (nonempty : path ≠ "") : LeadsTo path path :=
  ⟨nonempty, List.prefix_rfl, rfl⟩

theorem LeadsTo.trans {first second third : String} (before : LeadsTo first second)
    (after : LeadsTo second third) : LeadsTo first third :=
  ⟨before.nonempty, before.names.trans after.names, before.origin.trans after.origin⟩

theorem leadsTo_of_toList {before path : String} {after : List Char} (nonempty : before ≠ "")
    (split : path.toList = before.toList ++ '/' :: after) : LeadsTo before path := by
  refine ⟨nonempty, ?_, ?_⟩
  · rw [components_eq path, split, namesIn_append]
    exact List.prefix_append _ _
  · have characters : before.toList ≠ [] := by simpa using nonempty
    obtain ⟨c, rest, same⟩ := List.exists_cons_of_ne_nil characters
    simp [isAbsolute, split, same]

/-- A parent begins like the path and ends in front of one of its slashes, or there is none. -/
theorem parent_cases (path : String) : parent path = "" ∨
    ∃ kept, parent path = String.ofList ((splitStart path).1 ++ kept) ∧
      (kept = [] ∨ ∃ after, (splitStart path).2 = kept ++ '/' :: after) := by
  simp only [parent]
  split
  · exact .inl rfl
  · obtain ⟨steps, whole⟩ := suffix_trimmedFromEnd (splitStart path).2.reverse
    have rest : (splitStart path).2 =
        (steps ++ trimmedFromEnd (splitStart path).2.reverse).reverse := by
      rw [whole, List.reverse_reverse]
    generalize trimmedFromEnd (splitStart path).2.reverse = reversed at rest ⊢
    refine .inr ⟨_, rfl, ?_⟩
    obtain none | ⟨cut, name⟩ := trimmedFromEnd_dropWhile_cases reversed
    · exact .inl (by rw [none, List.reverse_nil])
    · generalize trimmedFromEnd (reversed.dropWhile (· ≠ '/')) = kept at name ⊢
      refine .inr ⟨(steps ++ cut).reverse, ?_⟩
      rw [rest, name]
      simp

theorem leadsTo_parent {path : String} (nonempty : parent path ≠ "") :
    LeadsTo (parent path) path := by
  have whole := splitStart_append path
  obtain empty | ⟨kept, isParent, none | ⟨after, rest⟩⟩ := parent_cases path
  · exact absurd empty nonempty
  · -- nothing is left but where the path starts
    subst none
    rw [isParent, List.append_nil] at nonempty ⊢
    obtain start | start | ⟨start, none | ⟨after, rest⟩⟩ := splitStart_cases path
    · simp [start] at nonempty
    · refine ⟨nonempty, ?_, ?_⟩
      · rw [start]
        exact List.nil_prefix
      · simp [isAbsolute, start, ← whole]
    · rw [start, none, List.append_nil] at whole
      have same : path = String.ofList ['.'] := by
        rw [whole, String.ofList_toList]
      rw [start, ← same]
      exact .refl (by rw [same]; decide)
    · have split : path.toList =
          (String.ofList (splitStart path).1).toList ++ '/' :: after := by
        rw [← whole, rest, String.toList_ofList]
      exact leadsTo_of_toList nonempty split
  · have split : path.toList = (parent path).toList ++ '/' :: after := by
      rw [isParent, String.toList_ofList, ← whole, rest, List.append_assoc]
    exact leadsTo_of_toList nonempty split

theorem leadsTo_of_mem_ancestors {before path : String} (member : before ∈ ancestors path) :
    LeadsTo before path := by
  have upTo (count : Nat) (path : String) (member : before ∈ ancestorsUpTo count path) :
      LeadsTo before path := by
    induction count generalizing path with
    | zero => simp [ancestorsUpTo] at member
    | succ count ih =>
        by_cases empty : path = ""
        · simp [ancestorsUpTo, empty] at member
        · simp only [ancestorsUpTo, empty, if_false, List.mem_cons] at member
          obtain rfl | earlier := member
          · exact .refl empty
          · have leads := ih (parent path) earlier
            have inner : parent path ≠ "" := by
              intro top
              rw [top] at earlier
              cases count <;> simp [ancestorsUpTo] at earlier
            exact leads.trans (leadsTo_parent inner)
  exact upTo _ path member

theorem leadsTo_of_mem_ancestors_parent {before path : String}
    (member : before ∈ ancestors (parent path)) : LeadsTo before path := by
  have inner : parent path ≠ "" := by
    intro top
    simp [top, ancestors, ancestorsUpTo] at member
  exact (leadsTo_of_mem_ancestors member).trans (leadsTo_parent inner)

end Ancestors

end ODataClient.Path
