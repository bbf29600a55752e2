import Mathlib.Data.List.Nodup
import ODataClient.Proofs.Disk.Places

/-!
# Changes to a disk

Files are written and directories made at the places of their paths. What was there before stays
there, as a file or as a directory, so that every path that could be followed still can. A disk on
which everything lies in a directory remains one.
-/

namespace ODataClient.FileTree

variable {tree next last : FileTree} {location other : Location} {path text : String}
  {paths : List String} {node : FileNode} {nodes others : List (Location × FileNode)}

section Nodes

theorem lookup_cons_eq (key : Location) (held : FileNode) (nodes : List (Location × FileNode)) :
    ((key, held) :: nodes).lookup other = if other = key then some held else nodes.lookup other := by
  by_cases same : other = key
  · simp [same]
  · rw [List.lookup_cons, beq_false_of_ne same, if_neg same]

theorem lookup_setNode : (setNode location node nodes).lookup other =
    if other = location then some node else nodes.lookup other := by
  induction nodes with
  | nil => simp [setNode, lookup_cons_eq]
  | cons entry nodes ih =>
      obtain ⟨key, held⟩ := entry
      by_cases replaced : key = location
      · subst replaced
        by_cases same : other = key
        · simp [setNode, same]
        · simp [setNode, lookup_cons_eq, same]
      · have kept : setNode location node ((key, held) :: nodes) =
            (key, held) :: setNode location node nodes := by simp [setNode, replaced]
        rw [kept, lookup_cons_eq, lookup_cons_eq, ih]
        by_cases same : other = key
        · simp [same, replaced]
        · simp [same]

theorem node?_set (nonroot : location ≠ []) (node : FileNode) (other : Location) :
    (tree.set location node).node? other =
      if other = location then some node else tree.node? other := by
  by_cases root : other = []
  · subst root
    simp [node?, Ne.symm nonroot]
  · simp [node?, root, set, lookup_setNode]

theorem mem_keys_iff : location ∈ nodes.map Prod.fst ↔ nodes.lookup location ≠ none := by
  simp [List.lookup_eq_none_iff]

theorem node?_ne_none_iff : tree.node? location ≠ none ↔
    location = [] ∨ location ∈ tree.nodes.map Prod.fst := by
  by_cases root : location = []
  · simp [node?, root]
  · rw [mem_keys_iff]
    simp [node?, root]

theorem keys_setNode_of_mem (there : location ∈ nodes.map Prod.fst) :
    (setNode location node nodes).map Prod.fst = nodes.map Prod.fst := by
  induction nodes with
  | nil => simp at there
  | cons entry nodes ih =>
      obtain ⟨key, held⟩ := entry
      by_cases replaced : key = location
      · simp [setNode, replaced]
      · have later : location ∈ nodes.map Prod.fst := by
          simpa [Ne.symm replaced] using there
        simp [setNode, replaced, ih later]

theorem setNode_of_notMem (absent : location ∉ nodes.map Prod.fst) :
    setNode location node nodes = nodes ++ [(location, node)] := by
  induction nodes with
  | nil => rfl
  | cons entry nodes ih =>
      obtain ⟨key, held⟩ := entry
      rw [List.map_cons, List.mem_cons, not_or] at absent
      simp [setNode, Ne.symm absent.1, ih absent.2]

theorem mem_keys_setNode : other ∈ (setNode location node nodes).map Prod.fst ↔
    other = location ∨ other ∈ nodes.map Prod.fst := by
  rw [mem_keys_iff, lookup_setNode, mem_keys_iff]
  by_cases same : other = location <;> simp [same]

/-- Nodes are determined by what is found among them and the order of their locations. -/
theorem eq_of_lookup (distinct : (nodes.map Prod.fst).Nodup)
    (keys : others.map Prod.fst = nodes.map Prod.fst)
    (same : ∀ location ∈ nodes.map Prod.fst, others.lookup location = nodes.lookup location) :
    others = nodes := by
  induction nodes generalizing others with
  | nil => simpa using keys
  | cons entry nodes ih =>
      obtain ⟨key, held⟩ := entry
      cases others with
      | nil => simp at keys
      | cons first others =>
          obtain ⟨other, kept⟩ := first
          simp only [List.map_cons, List.cons.injEq] at keys
          obtain ⟨rfl, keys⟩ := keys
          obtain ⟨absent, distinct⟩ := List.nodup_cons.1 distinct
          have heads := same other (by simp)
          simp only [lookup_cons_eq, if_true, Option.some.injEq] at heads
          have tails : others = nodes := by
            refine ih distinct keys fun location member => ?_
            have apart : location ≠ other := fun equal => absent (equal ▸ member)
            have found := same location (List.mem_cons_of_mem _ member)
            simpa [lookup_cons_eq, apart] using found
          rw [heads, tails]

end Nodes

section Soundness

/-- A disk on which everything lies in a directory and nothing is listed twice. -/
structure IsSound (tree : FileTree) : Prop where
  distinct : (tree.nodes.map Prod.fst).Nodup
  nonroot : [] ∉ tree.nodes.map Prod.fst
  inDirectory : ∀ location ∈ tree.nodes.map Prod.fst,
    tree.node? location.dropLast = some .directory

theorem IsSound.directory_dropLast (sound : tree.IsSound) (there : tree.node? location = some node) :
    tree.node? location.dropLast = some .directory := by
  obtain rfl | member := node?_ne_none_iff.1 (there ▸ Option.some_ne_none node)
  · rfl
  · exact sound.inDirectory location member

/-- All that leads to something is a directory. -/
theorem IsSound.directory_above (sound : tree.IsSound)
    (there : tree.node? location = some node) (leads : other <+: location)
    (apart : other ≠ location) : tree.node? other = some .directory := by
  induction location using List.reverseRecOn generalizing node with
  | nil => exact absurd (List.prefix_nil.1 leads) apart
  | append_singleton names name ih =>
      have parent := sound.directory_dropLast there
      rw [List.dropLast_concat] at parent
      obtain same | earlier := List.prefix_concat_iff.1 leads
      · exact absurd same apart
      · by_cases same : other = names
        · rw [same, parent]
        · exact ih parent earlier same

theorem IsSound.exists_above (sound : tree.IsSound)
    (there : tree.node? location = some node) (leads : other <+: location) :
    ∃ held, tree.node? other = some held := by
  by_cases same : other = location
  · exact ⟨node, by rw [same, there]⟩
  · exact ⟨.directory, sound.directory_above there leads same⟩

theorem IsSound.set (sound : tree.IsSound) (nonroot : location ≠ [])
    (inside : tree.node? location.dropLast = some .directory)
    (free : tree.node? location ≠ some .directory) : (tree.set location node).IsSound := by
  constructor
  · by_cases there : location ∈ tree.nodes.map Prod.fst
    · rw [FileTree.set, keys_setNode_of_mem there]
      exact sound.distinct
    · rw [FileTree.set, setNode_of_notMem there, List.map_append, List.map_singleton,
        ← List.concat_eq_append]
      exact List.Nodup.concat there sound.distinct
  · rw [FileTree.set, mem_keys_setNode]
    simp [sound.nonroot, Ne.symm nonroot]
  · intro other member
    rw [FileTree.set, mem_keys_setNode] at member
    rw [node?_set nonroot]
    obtain rfl | member := member
    · have shorter : other.dropLast ≠ other := by
        intro same
        have lengths := congrArg List.length same
        have positive := List.length_pos_iff.2 nonroot
        rw [List.length_dropLast] at lengths
        omega
      rw [if_neg shorter, inside]
    · have parent := sound.inDirectory other member
      have apart : other.dropLast ≠ location := fun same => free (same ▸ parent)
      rw [if_neg apart, parent]

end Soundness

section Extension

/-- Another state of a disk, on which all that was there still is, be it with other texts. -/
structure Extends (tree next : FileTree) : Prop where
  workingDirectory : next.workingDirectory = tree.workingDirectory
  kinds : ∀ location node, tree.node? location = some node →
    ∃ kept, next.node? location = some kept ∧ kept.kind = node.kind

theorem Extends.refl (tree : FileTree) : tree.Extends tree :=
  ⟨rfl, fun _ node there => ⟨node, there, rfl⟩⟩

theorem Extends.trans (first : tree.Extends next) (second : next.Extends last) :
    tree.Extends last := by
  refine ⟨second.workingDirectory.trans first.workingDirectory, fun location node there => ?_⟩
  obtain ⟨middle, kept, same⟩ := first.kinds location node there
  obtain ⟨final, keptToo, sameToo⟩ := second.kinds location middle kept
  exact ⟨final, keptToo, sameToo.trans same⟩

theorem Extends.directory (extension : tree.Extends next)
    (there : tree.node? location = some .directory) : next.node? location = some .directory := by
  obtain ⟨kept, there, same⟩ := extension.kinds location .directory there
  cases kept with
  | file text => cases same
  | directory => exact there

theorem Extends.file (extension : tree.Extends next) (there : tree.node? location = some (.file text)) :
    ∃ kept, next.node? location = some (.file kept) := by
  obtain ⟨kept, there, same⟩ := extension.kinds location (.file text) there
  cases kept with
  | file kept => exact ⟨kept, there⟩
  | directory => cases same

theorem Extends.origin_eq (extension : tree.Extends next) (path : String) :
    next.origin path = tree.origin path := by
  rw [origin, origin, extension.workingDirectory]

theorem Extends.place_eq (extension : tree.Extends next) (path : String) :
    next.place path = tree.place path := by
  rw [place, place, extension.origin_eq]

theorem Leads.mono (extension : tree.Extends next) (leads : tree.Leads path) : next.Leads path := by
  refine ⟨leads.admissible, fun before name after split => ?_⟩
  rw [extension.origin_eq]
  exact extension.directory (leads.directories before name after split)

theorem hasDirectory_mono (extension : tree.Extends next) (there : tree.hasDirectory path = true) :
    next.hasDirectory path = true := by
  obtain ⟨leads, isDirectory⟩ := hasDirectory_iff.1 there
  refine hasDirectory_iff.2 ⟨leads.mono extension, ?_⟩
  rw [extension.place_eq]
  exact extension.directory isDirectory

theorem find_mono (extension : tree.Extends next) (found : tree.find path = .ok node) :
    ∃ kept, next.find path = .ok kept := by
  obtain ⟨leads, there, allowed⟩ := find_eq_ok_iff.1 found
  obtain ⟨kept, thereToo, same⟩ := extension.kinds _ _ there
  rw [← extension.place_eq path] at thereToo
  refine ⟨kept, find_eq_ok_iff.2 ⟨leads.mono extension, thereToo, fun slash => ?_⟩⟩
  rw [allowed slash] at same
  cases kept with
  | file text => cases same
  | directory => rfl

/-- Nothing but a file may take the place of a file. -/
theorem extends_set (nonroot : location ≠ [])
    (free : ∀ held, tree.node? location = some held → held.kind = node.kind) :
    tree.Extends (tree.set location node) := by
  refine ⟨rfl, fun other held there => ?_⟩
  rw [node?_set nonroot]
  by_cases same : other = location
  · subst same
    exact ⟨node, by simp, (free held there).symm⟩
  · exact ⟨held, by rw [if_neg same, there], rfl⟩

end Extension

section Changes

variable {parent : Location} {name : String}

theorem place_ne_nil (ends : EndsWithName path) : tree.place path ≠ [] := by
  rw [place_of_endsWithName ends]
  simp

theorem locate_of_locateParent (located : tree.locateParent path = .ok (parent, name))
    (isName : Path.isStep name = false) :
    EndsWithName path ∧ tree.locate path = tree.follow parent name := by
  have ends : EndsWithName path := by
    rw [EndsWithName, ← snd_of_locateParent located]
    exact isName
  refine ⟨ends, ?_⟩
  rw [locate_of_endsWithName ends, located]
  rfl

theorem exists_locateParent_of_leads (leads : tree.Leads path) (ends : EndsWithName path) :
    ∃ parent name, tree.locateParent path = .ok (parent, name) ∧ Path.isStep name = false ∧
      tree.follow parent name = .ok (tree.place path) := by
  have located : tree.locate path = .ok (tree.place path) := locate_eq_ok_iff.2 ⟨leads, rfl⟩
  rw [locate_of_endsWithName ends, Outcome.bind_eq_ok_iff] at located
  obtain ⟨⟨parent, name⟩, found, followed⟩ := located
  refine ⟨parent, name, found, ?_, followed⟩
  rw [show name = _ from snd_of_locateParent found]
  exact ends

/-- A file is written at the place of its path, in a directory that is there. -/
theorem write_eq_ok_iff : tree.write path text = .ok next ↔
    tree.Leads path ∧ EndsWithName path ∧ Path.meansDirectory path = false ∧
      tree.node? (tree.place path) ≠ some .directory ∧
        next = tree.set (tree.place path) (.file text) := by
  rw [write, Outcome.bind_eq_ok_iff]
  constructor
  · rintro ⟨⟨parent, name⟩, located, ran⟩
    dsimp only at ran
    split at ran
    · cases ran
    · next allowed =>
      simp only [Bool.or_eq_true, not_or, Bool.not_eq_true] at allowed
      obtain ⟨location, followed, ran⟩ := Outcome.bind_eq_ok_iff.1 ran
      obtain ⟨ends, same⟩ := locate_of_locateParent located allowed.2
      obtain ⟨leads, rfl⟩ := locate_eq_ok_iff.1 (same.trans followed)
      split at ran
      · cases ran
      · next free =>
        cases ran
        exact ⟨leads, ends, allowed.1, free, rfl⟩
  · rintro ⟨leads, ends, plain, free, rfl⟩
    obtain ⟨parent, name, found, isName, followed⟩ := exists_locateParent_of_leads leads ends
    refine ⟨(parent, name), found, ?_⟩
    simp only [plain, isName, Bool.or_self, Bool.false_eq_true, if_false]
    refine Outcome.bind_eq_ok_iff.2 ⟨_, followed, ?_⟩
    split
    · next isDirectory => exact absurd isDirectory free
    · rfl

theorem extends_write (written : tree.write path text = .ok next) : tree.Extends next := by
  obtain ⟨-, ends, -, free, rfl⟩ := write_eq_ok_iff.1 written
  refine extends_set (place_ne_nil ends) fun held there => ?_
  cases held with
  | file text => rfl
  | directory => exact absurd there free

/-- A directory is made at the place of its path, in a directory that is there. -/
theorem makeDirectory_eq_ok_iff : tree.makeDirectory path = .ok next ↔
    tree.Leads path ∧ EndsWithName path ∧ tree.node? (tree.place path) = none ∧
      next = tree.set (tree.place path) .directory := by
  rw [makeDirectory, Outcome.bind_eq_ok_iff]
  constructor
  · rintro ⟨⟨parent, name⟩, located, ran⟩
    dsimp only at ran
    split at ran
    · cases ran
    · next isName =>
      obtain ⟨location, followed, ran⟩ := Outcome.bind_eq_ok_iff.1 ran
      obtain ⟨ends, same⟩ := locate_of_locateParent located (Bool.eq_false_iff.2 isName)
      obtain ⟨leads, rfl⟩ := locate_eq_ok_iff.1 (same.trans followed)
      split at ran
      · cases ran
      · next free =>
        cases ran
        exact ⟨leads, ends, by simpa using free, rfl⟩
  · rintro ⟨leads, ends, free, rfl⟩
    obtain ⟨parent, name, found, isName, followed⟩ := exists_locateParent_of_leads leads ends
    refine ⟨(parent, name), found, ?_⟩
    simp only [isName, Bool.false_eq_true, if_false]
    refine Outcome.bind_eq_ok_iff.2 ⟨_, followed, ?_⟩
    simp [free]

/-- A path that leads to a directory can be followed up to its last part. -/
theorem exists_locateParent (there : tree.hasDirectory path = true) :
    ∃ parent name, tree.locateParent path = .ok (parent, name) := by
  obtain ⟨leads, isDirectory⟩ := hasDirectory_iff.1 there
  have started : tree.start path = .ok (tree.origin path) :=
    start_eq_ok_iff.2 ⟨⟨leads.admissible.zero, leads.admissible.nonempty, leads.admissible.size⟩, rfl⟩
  have fits : ∀ name ∈ (Path.components path).dropLast, Fits name := fun name member =>
    leads.admissible.names name (List.mem_of_mem_dropLast member)
  let parent := (Path.components path).dropLast.foldl stepTo (tree.origin path)
  have reached : (Path.components path).dropLast.foldlM tree.follow (tree.origin path) =
      .ok parent ∧ tree.node? parent = some .directory := by
    obtain none | ⟨before, name, split⟩ := List.eq_nil_or_concat (Path.components path)
    · rw [place, none] at isDirectory
      simp only [parent, none]
      exact ⟨rfl, isDirectory⟩
    · rw [List.concat_eq_append] at split
      have same : (Path.components path).dropLast = before := by simp [split]
      refine ⟨foldlM_follow_eq_ok_iff.2 ⟨rfl, fits, ?_⟩, ?_⟩
      · intro earlier other after cut
        refine leads.directories earlier other (after ++ [name]) ?_
        rw [split, ← same, cut, List.append_assoc, List.cons_append]
      · simp only [parent, same]
        exact leads.directories before name [] split
  have stays : tree.follow parent "." = .ok parent :=
    follow_eq_ok_iff.2 ⟨reached.2, .inl rfl, rfl⟩
  refine ⟨parent, (Path.components path).getLastD ".", ?_⟩
  exact Outcome.bind_eq_ok_iff.2 ⟨_, started, Outcome.bind_eq_ok_iff.2 ⟨_, reached.1,
    Outcome.bind_eq_ok_iff.2 ⟨_, stays, rfl⟩⟩⟩

/-- A directory that is there is not made again. -/
theorem makeDirectory_of_hasDirectory (there : tree.hasDirectory path = true) :
    tree.makeDirectory path = .error .alreadyExists := by
  obtain ⟨parent, name, found⟩ := exists_locateParent there
  obtain ⟨leads, isDirectory⟩ := hasDirectory_iff.1 there
  rw [makeDirectory, found]
  by_cases step : Path.isStep name = true
  · simp [bind, Except.bind, step]
  · obtain ⟨ends, same⟩ := locate_of_locateParent found (Bool.eq_false_iff.2 step)
    have followed : tree.follow parent name = .ok (tree.place path) :=
      same.symm.trans (locate_eq_ok_iff.2 ⟨leads, rfl⟩)
    simp [bind, Except.bind, step, followed, isDirectory]

end Changes

section Directories

/-- Another state of a disk, on which some directories have been made where nothing was. -/
structure Adds (tree next : FileTree) (locations : List Location) : Prop where
  workingDirectory : next.workingDirectory = tree.workingDirectory
  nodes : ∀ location, next.node? location = tree.node? location ∨
    tree.node? location = none ∧ next.node? location = some .directory ∧ location ∈ locations
  sound : tree.IsSound → next.IsSound

variable {locations further : List Location}

theorem Adds.refl (tree : FileTree) (locations : List Location) : tree.Adds tree locations :=
  ⟨rfl, fun _ => .inl rfl, id⟩

theorem Adds.node?_of_some (adds : tree.Adds next locations)
    (there : tree.node? location = some node) : next.node? location = some node := by
  obtain same | ⟨absent, -⟩ := adds.nodes location
  · rw [same, there]
  · rw [absent] at there
    cases there

theorem Adds.extends (adds : tree.Adds next locations) : tree.Extends next :=
  ⟨adds.workingDirectory, fun _ node there => ⟨node, adds.node?_of_some there, rfl⟩⟩

theorem Adds.trans (first : tree.Adds next locations) (second : next.Adds last further) :
    tree.Adds last (locations ++ further) := by
  refine ⟨second.workingDirectory.trans first.workingDirectory, fun location => ?_,
    fun sound => second.sound (first.sound sound)⟩
  obtain same | ⟨absent, made, member⟩ := second.nodes location
  · obtain sameToo | ⟨absent, made, member⟩ := first.nodes location
    · exact .inl (same.trans sameToo)
    · exact .inr ⟨absent, same.trans made, List.mem_append_left _ member⟩
  · obtain sameToo | ⟨-, madeToo, -⟩ := first.nodes location
    · exact .inr ⟨sameToo.symm.trans absent, made, List.mem_append_right _ member⟩
    · rw [absent] at madeToo
      cases madeToo

theorem Adds.mono (adds : tree.Adds next locations) (includes : locations ⊆ further) :
    tree.Adds next further := by
  refine ⟨adds.workingDirectory, fun location => ?_, adds.sound⟩
  exact (adds.nodes location).imp_right fun ⟨absent, made, member⟩ => ⟨absent, made, includes member⟩

theorem adds_makeDirectory (made : tree.makeDirectory path = .ok next) :
    tree.Adds next [tree.place path] := by
  obtain ⟨leads, ends, free, rfl⟩ := makeDirectory_eq_ok_iff.1 made
  refine ⟨rfl, fun location => ?_, fun sound => ?_⟩
  · rw [node?_set (place_ne_nil ends)]
    by_cases same : location = tree.place path
    · subst same
      exact .inr ⟨free, by simp, by simp⟩
    · exact .inl (if_neg same)
  · refine sound.set (place_ne_nil ends) (leads.directory_dropLast ends) ?_
    simp [free]

theorem hasDirectory_of_makeDirectory (made : tree.makeDirectory path = .ok next) :
    next.hasDirectory path = true := by
  have extension := (adds_makeDirectory made).extends
  obtain ⟨leads, ends, -, rfl⟩ := makeDirectory_eq_ok_iff.1 made
  refine hasDirectory_iff.2 ⟨leads.mono extension, ?_⟩
  rw [extension.place_eq, node?_set (place_ne_nil ends), if_pos rfl]

/-- Directories are only made where nothing is, and if that ends well, the innermost is there. -/
theorem makeAll_spec (tree : FileTree) (paths : List String) :
    tree.Adds (makeAll tree paths).2 (paths.map tree.place) ∧
      ((makeAll tree paths).1 = .ok () → ∀ path ∈ paths.head?,
        (makeAll tree paths).2.hasDirectory path = true) := by
  induction paths with
  | nil => exact ⟨.refl tree _, by simp⟩
  | cons path outer ih =>
      have inner : [tree.place path] ⊆ (path :: outer).map tree.place := by simp
      rw [makeAll]
      split
      · next next made =>
        refine ⟨(adds_makeDirectory made).mono inner, fun _ => ?_⟩
        simpa using hasDirectory_of_makeDirectory made
      · obtain ⟨before, -⟩ := ih
        have around : outer.map tree.place ⊆ (path :: outer).map tree.place := by simp
        split
        · next error next ran =>
          rw [ran] at before
          exact ⟨before.mono around, by simp⟩
        · next next ran =>
          rw [ran] at before
          split
          · next last made =>
            have added := before.trans (adds_makeDirectory made)
            rw [before.extends.place_eq] at added
            refine ⟨added.mono (List.append_subset.2 ⟨around, inner⟩), fun _ => ?_⟩
            simpa using hasDirectory_of_makeDirectory made
          · exact ⟨before.mono around, by simp +contextual⟩
      · exact ⟨.refl tree _, by simp +contextual⟩

/-- Directories that are there are not made again. -/
theorem makeAll_of_hasDirectory (there : ∀ path ∈ paths.head?, tree.hasDirectory path = true) :
    makeAll tree paths = (.ok (), tree) := by
  cases paths with
  | nil => rfl
  | cons path outer =>
      have top : tree.hasDirectory path = true := there path (by simp)
      simp [makeAll, makeDirectory_of_hasDirectory top, top]

end Directories

end ODataClient.FileTree
