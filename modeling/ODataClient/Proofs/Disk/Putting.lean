import ODataClient.Proofs.Disk.Trees

/-!
# Files put on a disk

A file is put at a path together with the directories that lead to it. As long as a path does not go
up through a directory that is still missing, nothing but that is changed, and a file that is there
is found.
-/

namespace ODataClient.FileTree

variable {tree next after : FileTree} {location : Location} {path text : String} {node : FileNode}

section Putting

/-- A file is put at a path, together with the directories that lead to it. -/
def Puts (tree : FileTree) (path text : String) (after : FileTree) : Prop :=
  ∃ middle, makeAll tree (Path.ancestors (Path.parent path)) = (.ok (), middle) ∧
    middle.write path text = .ok after

theorem Puts.admissible (puts : tree.Puts path text after) : IsAdmissible path := by
  obtain ⟨middle, -, written⟩ := puts
  exact (write_eq_ok_iff.1 written).1.admissible

theorem Puts.endsWithName (puts : tree.Puts path text after) : EndsWithName path := by
  obtain ⟨middle, -, written⟩ := puts
  exact (write_eq_ok_iff.1 written).2.1

theorem Puts.plain (puts : tree.Puts path text after) : Path.meansDirectory path = false := by
  obtain ⟨middle, -, written⟩ := puts
  exact (write_eq_ok_iff.1 written).2.2.1

theorem Puts.node?_cases (puts : tree.Puts path text after) (location : Location) :
    if location = tree.place path then after.node? location = some (.file text)
    else after.node? location = tree.node? location ∨
      tree.node? location = none ∧ after.node? location = some .directory ∧
        ∃ outer ∈ Path.ancestors (Path.parent path), location = tree.place outer := by
  obtain ⟨middle, made, written⟩ := puts
  obtain ⟨adds, -⟩ := makeAll_spec tree (Path.ancestors (Path.parent path))
  rw [made] at adds
  obtain ⟨-, ends, -, -, rfl⟩ := write_eq_ok_iff.1 written
  rw [adds.extends.place_eq, node?_set (adds.extends.place_eq path ▸ place_ne_nil ends)]
  by_cases same : location = tree.place path
  · simp [same]
  · rw [if_neg same, if_neg same]
    obtain kept | ⟨absent, isDirectory, member⟩ := adds.nodes location
    · exact .inl kept
    · obtain ⟨outer, isOuter, rfl⟩ := List.mem_map.1 member
      exact .inr ⟨absent, isDirectory, outer, isOuter, rfl⟩

theorem Puts.node?_place (puts : tree.Puts path text after) :
    after.node? (tree.place path) = some (.file text) := by
  have nodes := puts.node?_cases (tree.place path)
  rwa [if_pos rfl] at nodes

theorem Puts.sound (puts : tree.Puts path text after) (sound : tree.IsSound) : after.IsSound := by
  obtain ⟨middle, made, written⟩ := puts
  obtain ⟨adds, -⟩ := makeAll_spec tree (Path.ancestors (Path.parent path))
  rw [made] at adds
  obtain ⟨leads, ends, -, free, rfl⟩ := write_eq_ok_iff.1 written
  exact (adds.sound sound).set (place_ne_nil ends) (leads.directory_dropLast ends) free

theorem Puts.extends (puts : tree.Puts path text after) : tree.Extends after := by
  obtain ⟨middle, made, written⟩ := puts
  obtain ⟨adds, -⟩ := makeAll_spec tree (Path.ancestors (Path.parent path))
  rw [made] at adds
  exact adds.extends.trans (extends_write written)

/-- What has been put can be found. -/
theorem Puts.find_eq_ok (puts : tree.Puts path text after) :
    after.find path = .ok (.file text) := by
  have extension := puts.extends
  have there := puts.node?_place
  obtain ⟨middle, -, written⟩ := puts
  obtain ⟨leads, -, plain, -⟩ := write_eq_ok_iff.1 written
  refine find_eq_ok_iff.2 ⟨leads.mono (extends_write written), ?_, by simp [plain]⟩
  rw [extension.place_eq, there]

/-- Where a file has been put, one can be put again without making a directory. -/
theorem Puts.again {further : String} (puts : tree.Puts path text after)
    (extension : after.Extends next) :
    next.Puts path further (next.set (next.place path) (.file further)) := by
  obtain ⟨leads, there, -⟩ := find_eq_ok_iff.1 puts.find_eq_ok
  obtain ⟨kept, thereToo⟩ := extension.file there
  have ends := puts.endsWithName
  have plain := puts.plain
  obtain ⟨middle, made, written⟩ := puts
  obtain ⟨-, innermost⟩ := makeAll_spec tree (Path.ancestors (Path.parent path))
  rw [made] at innermost
  have later := (extends_write written).trans extension
  refine ⟨next, makeAll_of_hasDirectory fun outer isOuter => ?_, ?_⟩
  · exact hasDirectory_mono later (innermost rfl outer isOuter)
  · refine write_eq_ok_iff.2 ⟨leads.mono extension, ends, plain, ?_, rfl⟩
    rw [extension.place_eq, thereToo]
    simp

end Putting

section Descent

/-- A path that goes up only through directories that are there. -/
def Descends (tree : FileTree) (path : String) : Prop :=
  ∃ lead rest, Path.components path = lead ++ rest ∧ ".." ∉ rest ∧
    ∀ before name after, lead = before ++ name :: after →
      tree.node? (before.foldl stepTo (tree.origin path)) = some .directory

theorem Descends.mono (extension : tree.Extends next) (descends : tree.Descends path) :
    next.Descends path := by
  obtain ⟨lead, rest, split, down, directories⟩ := descends
  refine ⟨lead, rest, split, down, fun before name after cut => ?_⟩
  rw [extension.origin_eq]
  exact extension.directory (directories before name after cut)

theorem foldl_stepTo_of_notMem {names : List String} (down : ".." ∉ names) :
    names.foldl stepTo location = location ++ names.filter (· ≠ ".") := by
  induction names generalizing location with
  | nil => simp
  | cons name names ih =>
      rw [List.mem_cons, not_or] at down
      rw [List.foldl_cons, ih down.2]
      by_cases here : name = "."
      · simp [stepTo, here]
      · simp [stepTo, here, Ne.symm down.1]

/-- Where a path passes, there is a directory already or it goes on from there. -/
theorem Descends.cases {before behind : List String} (descends : tree.Descends path)
    (split : Path.components path = before ++ behind) :
    tree.node? (before.foldl stepTo (tree.origin path)) = some .directory ∨
      tree.place path = before.foldl stepTo (tree.origin path) ++ behind.filter (· ≠ ".") := by
  obtain ⟨lead, rest, cut, down, directories⟩ := descends
  have onwards (more : List String) (same : before = lead ++ more) (others : rest = more ++ behind) :
      tree.place path = before.foldl stepTo (tree.origin path) ++ behind.filter (· ≠ ".") := by
    have downAfter : ".." ∉ behind := fun member =>
      down (by rw [others]; exact List.mem_append_right _ member)
    rw [place, split, List.foldl_append, foldl_stepTo_of_notMem downAfter]
  obtain ⟨more, same, others⟩ | ⟨more, same, others⟩ :=
    List.append_eq_append_iff.1 (cut.symm.trans split)
  · exact .inr (onwards more same others)
  · cases more with
    | nil =>
        rw [List.append_nil] at same
        exact .inr (onwards [] (by rw [same, List.append_nil]) others.symm)
    | cons name more => exact .inl (directories before name more same)

/-- If there is something at the place of a path, the path can be followed. -/
theorem leads_of_node? (sound : tree.IsSound) (admissible : IsAdmissible path)
    (ends : EndsWithName path) (descends : tree.Descends path)
    (there : tree.node? (tree.place path) = some node) : tree.Leads path := by
  refine ⟨admissible, fun before name after split => ?_⟩
  obtain isDirectory | onwards := descends.cases split
  · exact isDirectory
  · -- the last name of the path is among those that are to come
    have last : (Path.components path).getLastD "." ∈ (name :: after).filter (· ≠ ".") := by
      have behind : (Path.components path).getLastD "." = (name :: after).getLast (by simp) := by
        rw [split, List.getLastD_eq_getLast?, List.getLast?_append_of_ne_nil _ (by simp),
          List.getLast?_eq_some_getLast (by simp), Option.getD_some]
      refine List.mem_filter.2 ⟨behind ▸ List.getLast_mem _, ?_⟩
      have isName : Path.isStep ((Path.components path).getLastD ".") = false := ends
      simp only [Path.isStep, Bool.or_eq_false_iff, decide_eq_false_iff_not] at isName
      simpa using isName.1
    refine sound.directory_above there ⟨_, onwards.symm⟩ fun same => ?_
    rw [onwards] at same
    rw [List.self_eq_append_right.1 same] at last
    cases last

/-- A path only leads through new directories that lie on the way to its place. -/
theorem Descends.prefix_of_ancestor (descends : tree.Descends path) {outer : String}
    (leads : Path.LeadsTo outer path) (absent : tree.node? (tree.place outer) = none) :
    tree.place outer <+: tree.place path := by
  obtain ⟨after, split⟩ := leads.names
  have same : tree.place outer =
      (Path.components outer).foldl stepTo (tree.origin path) := by
    rw [place, origin, leads.origin, ← origin]
  rw [same] at absent ⊢
  obtain isDirectory | onwards := descends.cases split.symm
  · rw [absent] at isDirectory
    cases isDirectory
  · exact ⟨_, onwards.symm⟩

/-- A file put where nothing is brings the directories on the way to it, and nothing else. -/
theorem Puts.node?_eq (puts : tree.Puts path text after)
    (sound : tree.IsSound) (descends : tree.Descends path)
    (absent : tree.node? (tree.place path) = none) (location : Location) :
    after.node? location = (tree.node? location).or
      (if location <+: tree.place path then
        some (if location = tree.place path then .file text else .directory)
      else none) := by
  have nodes := puts.node?_cases location
  by_cases same : location = tree.place path
  · subst same
    rw [if_pos rfl] at nodes
    simp [nodes, absent]
  · rw [if_neg same] at nodes
    by_cases onWay : location <+: tree.place path
    · have isDirectory : after.node? location = some .directory :=
        (puts.sound sound).directory_above puts.node?_place onWay same
      obtain kept | ⟨free, -⟩ := nodes
      · rw [← kept, isDirectory]
        simp
      · simp [isDirectory, free, onWay, same]
    · obtain kept | ⟨free, -, outer, isOuter, rfl⟩ := nodes
      · simp [kept, onWay]
      · have leads := Path.leadsTo_of_mem_ancestors_parent isOuter
        exact absurd (descends.prefix_of_ancestor leads free) onWay

end Descent

end ODataClient.FileTree
