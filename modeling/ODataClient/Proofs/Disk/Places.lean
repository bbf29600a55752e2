import ODataClient.Disk.FileTree
import ODataClient.Proofs.Disk.Paths
import ODataClient.Proofs.Outcome

/-!
# Places on a disk

Where a path leads can be told from its text and the working directory. What is on the disk only
decides whether it can be followed: all that it leads through must be directories.
-/

namespace ODataClient.FileTree

/-- Where one part of a path leads from a location. -/
def stepTo (location : Location) (component : String) : Location :=
  if component = "." then location
  else if component = ".." then location.dropLast
  else location ++ [component]

/-- Whether a part of a path is short enough to be followed. -/
def Fits (component : String) : Prop :=
  Path.isStep component = true ∨ component.utf8ByteSize ≤ maxNameSize

/-- Whether a path is refused whatever is on the disk. -/
structure IsAdmissible (path : String) : Prop where
  zero : '\x00' ∉ path.toList
  nonempty : path ≠ ""
  size : path.utf8ByteSize ≤ maxPathSize
  names : ∀ name ∈ Path.components path, Fits name

variable {tree next last : FileTree} {location result : Location} {path component : String}
  {names : List String} {node : FileNode}

/-- The location from which a path is followed. -/
def origin (tree : FileTree) (path : String) : Location :=
  if Path.isAbsolute path then [] else tree.workingDirectory

/-- The location that a path leads to, if it can be followed. -/
def place (tree : FileTree) (path : String) : Location :=
  (Path.components path).foldl stepTo (tree.origin path)

/-- A path that can be followed. Each of its names is looked for in a directory. -/
structure Leads (tree : FileTree) (path : String) : Prop where
  admissible : IsAdmissible path
  directories : ∀ before name after, Path.components path = before ++ name :: after →
    tree.node? (before.foldl stepTo (tree.origin path)) = some .directory

theorem origin_below (tree : FileTree) (base path : String) :
    tree.origin (Path.below base path) = tree.origin base := by
  rw [origin, origin, Path.isAbsolute_below]

theorem place_below (tree : FileTree) (base path : String) :
    tree.place (Path.below base path) = (Path.components path).foldl stepTo (tree.place base) := by
  rw [place, origin_below, Path.components_below, List.foldl_append, ← place]

section Following

theorem follow_eq_ok_iff : tree.follow location component = .ok result ↔
    tree.node? location = some .directory ∧ Fits component ∧ result = stepTo location component := by
  rw [follow]
  split
  · next absent => simp [absent]
  · next text isFile => simp [isFile]
  · next isDirectory =>
    by_cases here : component = "."
    · simp [isDirectory, here, Fits, Path.isStep, stepTo, eq_comm]
    · by_cases up : component = ".."
      · simp [isDirectory, up, Fits, Path.isStep, stepTo, eq_comm]
      · by_cases long : maxNameSize < component.utf8ByteSize
        · simp [isDirectory, here, up, long, Fits, Path.isStep, Nat.not_le.2 long]
        · simp [isDirectory, here, up, long, Fits, Path.isStep, stepTo, Nat.not_lt.1 long, eq_comm]

theorem foldlM_follow_eq_ok_iff : names.foldlM tree.follow location = .ok result ↔
    result = names.foldl stepTo location ∧ (∀ name ∈ names, Fits name) ∧
      ∀ before name after, names = before ++ name :: after →
        tree.node? (before.foldl stepTo location) = some .directory := by
  induction names generalizing location with
  | nil => simp [pure, Except.pure, eq_comm]
  | cons name names ih =>
      rw [List.foldlM_cons, Outcome.bind_eq_ok_iff]
      constructor
      · rintro ⟨middle, followed, rest⟩
        obtain ⟨isDirectory, fits, rfl⟩ := follow_eq_ok_iff.1 followed
        obtain ⟨same, fitting, directories⟩ := ih.1 rest
        refine ⟨same, List.forall_mem_cons.2 ⟨fits, fitting⟩, ?_⟩
        intro before other after split
        cases before with
        | nil => exact isDirectory
        | cons first before =>
            obtain ⟨rfl, behind⟩ := List.cons.inj split
            exact directories before other after behind
      · rintro ⟨same, fitting, directories⟩
        obtain ⟨fits, fitting⟩ := List.forall_mem_cons.1 fitting
        refine ⟨stepTo location name,
          follow_eq_ok_iff.2 ⟨directories [] name names rfl, fits, rfl⟩,
          ih.2 ⟨same, fitting, ?_⟩⟩
        intro before other after split
        exact directories (name :: before) other after (by rw [split]; rfl)

theorem start_eq_ok_iff : tree.start path = .ok result ↔
    ('\x00' ∉ path.toList ∧ path ≠ "" ∧ path.utf8ByteSize ≤ maxPathSize) ∧
      result = tree.origin path := by
  rw [start, ← origin]
  simp only [List.contains_iff_mem]
  by_cases zero : '\x00' ∈ path.toList
  · simp [zero]
  · rw [if_neg zero]
    by_cases empty : path = ""
    · simp [empty]
    · rw [if_neg empty]
      by_cases long : path.utf8ByteSize > maxPathSize
      · rw [if_pos long]
        simp [Nat.not_le.2 long]
      · rw [if_neg long]
        simp [zero, empty, Nat.not_lt.1 long, eq_comm]

theorem locate_eq_ok_iff : tree.locate path = .ok result ↔
    tree.Leads path ∧ result = tree.place path := by
  rw [locate, Outcome.bind_eq_ok_iff]
  constructor
  · rintro ⟨begun, started, followed⟩
    obtain ⟨⟨zero, nonempty, size⟩, rfl⟩ := start_eq_ok_iff.1 started
    obtain ⟨same, names, directories⟩ := foldlM_follow_eq_ok_iff.1 followed
    exact ⟨⟨⟨zero, nonempty, size, names⟩, directories⟩, same⟩
  · rintro ⟨⟨⟨zero, nonempty, size, names⟩, directories⟩, same⟩
    exact ⟨_, start_eq_ok_iff.2 ⟨⟨zero, nonempty, size⟩, rfl⟩,
      foldlM_follow_eq_ok_iff.2 ⟨same, names, directories⟩⟩

theorem find_eq_ok_iff : tree.find path = .ok node ↔ tree.Leads path ∧
    tree.node? (tree.place path) = some node ∧
      (Path.meansDirectory path = true → node = .directory) := by
  rw [find, Outcome.bind_eq_ok_iff]
  simp only [locate_eq_ok_iff]
  constructor
  · rintro ⟨location, ⟨leads, rfl⟩, found⟩
    refine ⟨leads, ?_⟩
    split at found
    · cases found
    · next text isFile =>
      split at found
      · cases found
      · next plain =>
        cases found
        simp [isFile, plain]
    · next isDirectory =>
      cases found
      simp [isDirectory]
  · rintro ⟨leads, isNode, allowed⟩
    refine ⟨_, ⟨leads, rfl⟩, ?_⟩
    rw [isNode]
    cases node with
    | directory => rfl
    | file text =>
        have plain : Path.meansDirectory path ≠ true := fun slash => by cases allowed slash
        simp [plain]

theorem hasDirectory_iff : tree.hasDirectory path = true ↔
    tree.Leads path ∧ tree.node? (tree.place path) = some .directory := by
  rw [hasDirectory, decide_eq_true_iff, Outcome.toOption_eq_some_iff, find_eq_ok_iff]
  simp

end Following

section Entering

/-- Whether a path ends with a name, not with a step. -/
def EndsWithName (path : String) : Prop :=
  Path.isStep ((Path.components path).getLastD ".") = false

theorem components_of_endsWithName (ends : EndsWithName path) : Path.components path =
    (Path.components path).dropLast ++ [(Path.components path).getLastD "."] := by
  cases last : (Path.components path).getLast? with
  | none =>
      have step : Path.isStep "." = true := rfl
      rw [EndsWithName, List.getLastD_eq_getLast?, last, Option.getD_none, step] at ends
      cases ends
  | some name =>
      rw [List.getLastD_eq_getLast?, last, Option.getD_some]
      exact (List.dropLast_append_getLast? name last).symm

theorem stepTo_of_isStep_eq_false (isName : Path.isStep component = false) :
    stepTo location component = location ++ [component] := by
  simp only [Path.isStep, Bool.or_eq_false_iff, decide_eq_false_iff_not] at isName
  simp [stepTo, isName.1, isName.2]

theorem place_of_endsWithName (ends : EndsWithName path) : tree.place path =
    (Path.components path).dropLast.foldl stepTo (tree.origin path) ++
      [(Path.components path).getLastD "."] := by
  have split := components_of_endsWithName ends
  rw [place]
  nth_rewrite 1 [split]
  rw [List.foldl_append, List.foldl_cons, List.foldl_nil, stepTo_of_isStep_eq_false ends]

theorem Leads.directory_dropLast (leads : tree.Leads path) (ends : EndsWithName path) :
    tree.node? (tree.place path).dropLast = some .directory := by
  rw [place_of_endsWithName ends, List.dropLast_concat]
  exact leads.directories _ _ [] (components_of_endsWithName ends)

/-- A name is looked for where it is stayed. -/
theorem follow_here_bind {name : String} :
    (tree.follow location "." >>= fun parent => tree.follow parent name) =
      tree.follow location name := by
  cases held : tree.node? location with
  | none => simp [follow, held, bind, Except.bind]
  | some node => cases node <;> simp [follow, held, bind, Except.bind]

theorem locate_of_endsWithName (ends : EndsWithName path) : tree.locate path =
    tree.locateParent path >>= fun found => tree.follow found.1 found.2 := by
  have split := components_of_endsWithName ends
  rw [locate]
  nth_rewrite 1 [split]
  simp only [locateParent, bind_assoc, pure_bind, List.foldlM_append, List.foldlM_cons,
    List.foldlM_nil, bind_pure, follow_here_bind]

theorem snd_of_locateParent {found : Location × String}
    (located : tree.locateParent path = .ok found) :
    found.2 = (Path.components path).getLastD "." := by
  obtain ⟨begun, -, rest⟩ := Outcome.bind_eq_ok_iff.1 located
  obtain ⟨parent, -, rest⟩ := Outcome.bind_eq_ok_iff.1 rest
  obtain ⟨same, -, rest⟩ := Outcome.bind_eq_ok_iff.1 rest
  cases rest
  rfl

end Entering

end ODataClient.FileTree
