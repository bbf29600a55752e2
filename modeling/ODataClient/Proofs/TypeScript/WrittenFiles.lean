import ODataClient.Proofs.Disk.Putting
import ODataClient.Proofs.Generation.Runs
import ODataClient.TypeScript.Output

/-!
# Generated files on a disk

What is written is what would be shown. Unless files are to be replaced, those that are there are
kept, and of several files for one place the first is written; otherwise the last one stays. Writing
the same files again changes nothing.
-/

namespace ODataClient

namespace WriteReport

/-- Several files with what became of each, sorted into those that were written and those that were
kept. -/
def ofResults (results : List (String × WriteResult)) : WriteReport where
  written := (results.filter fun entry => entry.2 = .written).map Prod.fst
  skipped := (results.filter fun entry => entry.2 = .skipped).map Prod.fst

theorem ofResults_concat (results : List (String × WriteResult)) (path : String)
    (result : WriteResult) :
    ofResults (results ++ [(path, result)]) = (ofResults results).add path result := by
  cases result <;> simp [ofResults, add]

end WriteReport

namespace TypeScript

open Generation (runOn runOn_bind_eq_ok runOn_pure_eq_ok runOn_lift_eq_ok runOn_map)

variable {tree after last : FileTree} {directory : String} {replace : Bool} {file : OutputFile}
  {files earlier : List OutputFile} {report start : WriteReport} {result : WriteResult}
  {location : Location}

/-- The path at which a generated file is put. -/
def OutputFile.target (file : OutputFile) (directory : String) : String :=
  Path.below directory file.path

/-- The place of a generated file. -/
def OutputFile.placeIn (file : OutputFile) (tree : FileTree) (directory : String) : Location :=
  tree.place (file.target directory)

theorem OutputFile.text_plan (file : OutputFile) (directory : String) (replace : Bool) :
    (file.plan directory replace).text = file.text := by
  obtain ⟨path, source | text⟩ := file <;> rfl

section Steps

/-- What may come of writing a generated file. -/
inductive Writes (tree : FileTree) (directory : String) (replace : Bool) (file : OutputFile) :
    WriteResult → FileTree → Prop
  | kept {node : FileNode} (keeps : replace = false)
      (there : tree.find (file.target directory) = .ok node) :
      Writes tree directory replace file .skipped tree
  | put {after : FileTree}
      (free : replace = true ∨ ∀ node, tree.find (file.target directory) ≠ .ok node)
      (puts : tree.Puts (file.target directory) file.text after) :
      Writes tree directory replace file .written after

theorem runOn_isKept (file : PlannedFile) : runOn (file.isKept : StateM FileTree Bool) tree =
    (file.overwrite = .ifMissing && (tree.find file.path).toOption.isSome, tree) := by
  have there : runOn (kind? file.path : StateM FileTree (Option NodeKind)) tree =
      ((tree.find file.path).toOption.map FileNode.kind, tree) := rfl
  simp only [PlannedFile.isKept, PlannedFile.isThere, bind_pure_comp, runOn_map, there,
    Option.isSome_map]

theorem runOn_writeUnless_true {file : PlannedFile} :
    runOn (file.writeUnless true : ExceptT DiskError (StateM FileTree) WriteResult).run tree =
      (.ok result, after) ↔ .skipped = result ∧ tree = after := by
  have kept : (file.writeUnless true : ExceptT DiskError (StateM FileTree) WriteResult) =
      pure .skipped := rfl
  rw [kept, runOn_pure_eq_ok]

theorem runOn_writeUnless_false {file : PlannedFile} :
    runOn (file.writeUnless false : ExceptT DiskError (StateM FileTree) WriteResult).run tree =
      (.ok result, after) ↔ .written = result ∧ tree.Puts file.path file.text after := by
  have put : (file.writeUnless false : ExceptT DiskError (StateM FileTree) WriteResult) = do
      makeDirectories (Path.parent file.path)
      writeText file.path file.text
      return .written := rfl
  have writes (tree : FileTree) : runOn (writeText file.path file.text :
      ExceptT DiskError (StateM FileTree) Unit).run tree = (.ok (), after) ↔
        tree.write file.path file.text = .ok after := by
    have wrote : runOn (writeText file.path file.text :
        ExceptT DiskError (StateM FileTree) Unit).run tree =
          FileTree.writing file.path file.text tree := rfl
    rw [wrote, FileTree.writing]
    cases written : tree.write file.path file.text with
    | ok next => simp
    | error error => simp
  rw [put, runOn_bind_eq_ok]
  constructor
  · rintro ⟨_, middle, made, ran⟩
    obtain ⟨_, last, written, ran⟩ := runOn_bind_eq_ok.1 ran
    obtain ⟨same, rfl⟩ := runOn_pure_eq_ok.1 ran
    exact ⟨same, middle, made, (writes middle).1 written⟩
  · rintro ⟨same, middle, made, written⟩
    exact ⟨(), middle, made, runOn_bind_eq_ok.2
      ⟨(), after, (writes middle).2 written, runOn_pure_eq_ok.2 ⟨same, rfl⟩⟩⟩

theorem runOn_write_eq_ok_iff : runOn ((file.plan directory replace).write :
    ExceptT DiskError (StateM FileTree) WriteResult).run tree = (.ok result, after) ↔
      Writes tree directory replace file result after := by
  have asked : runOn ((file.plan directory replace).isKept : StateM FileTree Bool) tree =
      (!replace && (tree.find (file.target directory)).toOption.isSome, tree) := by
    rw [runOn_isKept]
    cases replace <;> rfl
  have text := file.text_plan directory replace
  rw [PlannedFile.write, runOn_bind_eq_ok]
  simp only [runOn_lift_eq_ok, asked, Prod.mk.injEq]
  constructor
  · rintro ⟨isKept, middle, ⟨decided, rfl⟩, ran⟩
    cases isKept with
    | true =>
        obtain ⟨rfl, rfl⟩ := runOn_writeUnless_true.1 ran
        rw [Bool.and_eq_true, Bool.not_eq_true', Option.isSome_iff_exists] at decided
        obtain ⟨keeps, node, there⟩ := decided
        exact .kept keeps (Outcome.toOption_eq_some_iff.1 there)
    | false =>
        obtain ⟨rfl, puts⟩ := runOn_writeUnless_false.1 ran
        rw [text] at puts
        refine .put ?_ puts
        rw [Bool.and_eq_false_iff, Bool.not_eq_false'] at decided
        refine decided.imp_right fun absent node there => ?_
        simp [Outcome.toOption_eq_some_iff.2 there] at absent
  · rintro (@⟨node, keeps, there⟩ | @⟨_, free, puts⟩)
    · refine ⟨true, tree, ⟨?_, rfl⟩, runOn_writeUnless_true.2 ⟨rfl, rfl⟩⟩
      simp [keeps, Outcome.toOption_eq_some_iff.2 there]
    · refine ⟨false, tree, ⟨?_, rfl⟩, runOn_writeUnless_false.2 ⟨rfl, by rwa [text]⟩⟩
      obtain replaced | absent := free
      · simp [replaced]
      · cases found : tree.find (file.target directory) with
        | error error => simp [Except.toOption]
        | ok node => exact absurd found (absent node)

theorem runOn_writeFile_eq_ok_iff {next : WriteReport} :
    runOn (writeFile directory replace report file).run tree = (.ok next, after) ↔
      ∃ result, Writes tree directory replace file result after ∧
        next = report.add file.path result := by
  rw [writeFile, runOn_bind_eq_ok]
  constructor
  · rintro ⟨result, middle, written, ran⟩
    obtain ⟨rfl, rfl⟩ := runOn_pure_eq_ok.1 ran
    exact ⟨result, runOn_write_eq_ok_iff.1 written, rfl⟩
  · rintro ⟨result, written, rfl⟩
    exact ⟨result, after, runOn_write_eq_ok_iff.2 written, runOn_pure_eq_ok.2 ⟨rfl, rfl⟩⟩

end Steps

section Runs

variable {motive : List OutputFile → FileTree → WriteReport → Prop}

/-- What each file that is written keeps, a whole run keeps. -/
theorem induct_of_writeFiles
    (ran : runOn (writeFiles directory replace files).run tree = (.ok report, after))
    (first : motive [] tree {})
    (step : ∀ earlier file later current next sofar result, files = earlier ++ file :: later →
      motive earlier current sofar → Writes current directory replace file result next →
        motive (earlier ++ [file]) next (sofar.add file.path result)) :
    motive files after report := by
  -- from any point of the run on, by induction on the files that are left
  have onwards (left : List OutputFile) : ∀ earlier current sofar, files = earlier ++ left →
      motive earlier current sofar →
      runOn (left.foldlM (writeFile directory replace) sofar).run current = (.ok report, after) →
        motive files after report := by
    induction left with
    | nil =>
        intro earlier current sofar split holds ran
        obtain ⟨rfl, rfl⟩ := runOn_pure_eq_ok.1 ran
        rwa [split, List.append_nil]
    | cons file left ih =>
        intro earlier current sofar split holds ran
        rw [List.foldlM_cons] at ran
        obtain ⟨_, next, wrote, rest⟩ := runOn_bind_eq_ok.1 ran
        obtain ⟨result, writes, rfl⟩ := runOn_writeFile_eq_ok_iff.1 wrote
        refine ih (earlier ++ [file]) next _ ?_ ?_ rest
        · rw [split, List.append_assoc, List.singleton_append]
        · exact step earlier file left current next sofar result split holds writes
  exact onwards files [] tree {} rfl first ran

/-- A run ends well if each of its files can be written. -/
theorem exists_runOn_writeFiles (first : motive [] tree {})
    (step : ∀ earlier file later current sofar, files = earlier ++ file :: later →
      motive earlier current sofar → ∃ result next,
        Writes current directory replace file result next ∧
          motive (earlier ++ [file]) next (sofar.add file.path result)) :
    ∃ report after, runOn (writeFiles directory replace files).run tree = (.ok report, after) ∧
      motive files after report := by
  have onwards (left : List OutputFile) : ∀ earlier current sofar, files = earlier ++ left →
      motive earlier current sofar → ∃ report after,
        runOn (left.foldlM (writeFile directory replace) sofar).run current =
          (.ok report, after) ∧ motive files after report := by
    induction left with
    | nil =>
        intro earlier current sofar split holds
        refine ⟨sofar, current, rfl, ?_⟩
        rwa [split, List.append_nil]
    | cons file left ih =>
        intro earlier current sofar split holds
        obtain ⟨result, next, writes, holds⟩ :=
          step earlier file left current sofar split holds
        obtain ⟨report, after, ran, ends⟩ := ih (earlier ++ [file]) next _
          (by rw [split, List.append_assoc, List.singleton_append]) holds
        refine ⟨report, after, ?_, ends⟩
        rw [List.foldlM_cons, runOn_bind_eq_ok]
        exact ⟨_, next, runOn_writeFile_eq_ok_iff.2 ⟨result, writes, rfl⟩, ran⟩
  exact onwards files [] tree {} rfl first

theorem Writes.sound (writes : Writes tree directory replace file result after)
    (sound : tree.IsSound) : after.IsSound := by
  cases writes with
  | kept => exact sound
  | put free puts => exact puts.sound sound

theorem Writes.extends (writes : Writes tree directory replace file result after) :
    tree.Extends after := by
  cases writes with
  | kept => exact .refl tree
  | put free puts => exact puts.extends

theorem sound_and_extends_of_writeFiles (sound : tree.IsSound)
    (ran : runOn (writeFiles directory replace files).run tree = (.ok report, after)) :
    after.IsSound ∧ tree.Extends after := by
  refine induct_of_writeFiles (motive := fun _ current _ => current.IsSound ∧ tree.Extends current)
    ran ⟨sound, .refl tree⟩ ?_
  intro earlier file later current next sofar result split ⟨sound, extension⟩ writes
  exact ⟨writes.sound sound, extension.trans writes.extends⟩

end Runs

section Filling

/-- What the first of several files that lies at or below a location brings there. -/
def filling? (tree : FileTree) (directory : String) (files : List OutputFile)
    (location : Location) : Option FileNode :=
  (files.find? fun file => location <+: file.placeIn tree directory).map fun file =>
    if location = file.placeIn tree directory then .file file.text else .directory

/-- Whether a file is written after others or finds its place taken. -/
def fate (tree : FileTree) (directory : String) (earlier : List OutputFile) (file : OutputFile) :
    WriteResult :=
  let place := file.placeIn tree directory
  if tree.node? place = none ∧ filling? tree directory earlier place = none then .written
  else .skipped

/-- What becomes of files one after the other, when others have been written before. -/
def fates (tree : FileTree) (directory : String) (earlier : List OutputFile) :
    List OutputFile → List (String × WriteResult)
  | [] => []
  | file :: files =>
    (file.path, fate tree directory earlier file) :: fates tree directory (earlier ++ [file]) files

/-- A disk on which files have been written wherever nothing was. -/
structure Fills (tree : FileTree) (directory : String) (files : List OutputFile)
    (after : FileTree) (report : WriteReport) : Prop where
  workingDirectory : after.workingDirectory = tree.workingDirectory
  nodes : ∀ location, after.node? location =
    (tree.node? location).or (filling? tree directory files location)
  report : report = .ofResults (fates tree directory [] files)

theorem filling?_concat : filling? tree directory (files ++ [file]) location =
    (filling? tree directory files location).or
      (if location <+: file.placeIn tree directory then
        some (if location = file.placeIn tree directory then .file file.text else .directory)
      else none) := by
  rw [filling?, List.find?_append, filling?]
  cases files.find? fun file => location <+: file.placeIn tree directory with
  | some other => rfl
  | none => by_cases onWay : location <+: file.placeIn tree directory <;> simp [onWay]

theorem fates_concat : fates tree directory earlier (files ++ [file]) =
    fates tree directory earlier files ++
      [(file.path, fate tree directory (earlier ++ files) file)] := by
  induction files generalizing earlier with
  | nil => simp [fates]
  | cons other files ih => simp [fates, ih]

theorem fate_eq (fills : Fills tree directory earlier after report) :
    fate tree directory earlier file =
      if after.node? (file.placeIn tree directory) = none then .written else .skipped := by
  simp [fate, fills.nodes]

/-- A file is kept only where something is, and put only where nothing is. -/
theorem absent_of_put (sound : tree.IsSound) (descends : tree.Descends (file.target directory))
    (free : ∀ node, tree.find (file.target directory) ≠ .ok node)
    (puts : tree.Puts (file.target directory) file.text after) :
    tree.node? (file.placeIn tree directory) = none := by
  cases there : tree.node? (file.placeIn tree directory) with
  | none => rfl
  | some node =>
      have leads := FileTree.leads_of_node? sound puts.admissible puts.endsWithName descends there
      refine absurd (FileTree.find_eq_ok_iff.2 ⟨leads, there, ?_⟩) (free node)
      simp [puts.plain]

theorem Fills.step (fills : Fills tree directory earlier after report)
    (sound : after.IsSound) (extension : tree.Extends after)
    (descends : tree.Descends (file.target directory))
    (writes : Writes after directory false file result last) :
    Fills tree directory (earlier ++ [file]) last (report.add file.path result) := by
  have samePlace : after.place (file.target directory) = file.placeIn tree directory :=
    extension.place_eq _
  have reported (same : fate tree directory earlier file = result) :
      report.add file.path result = .ofResults (fates tree directory [] (earlier ++ [file])) := by
    rw [fates_concat, WriteReport.ofResults_concat, ← fills.report, List.nil_append, same]
  cases writes with
  | @kept node keeps there =>
      obtain ⟨-, there, -⟩ := FileTree.find_eq_ok_iff.1 there
      rw [samePlace] at there
      refine ⟨fills.workingDirectory, fun location => ?_, reported ?_⟩
      · rw [filling?_concat, ← Option.or_assoc, ← fills.nodes]
        by_cases onWay : location <+: file.placeIn tree directory
        · obtain ⟨held, isHeld⟩ := sound.exists_above there onWay
          simp [isHeld]
        · simp [onWay]
      · simp [fate_eq fills, there]
  | put free puts =>
      have absent : after.node? (after.place (file.target directory)) = none :=
        absent_of_put sound (descends.mono extension) (free.resolve_left (by simp)) puts
      have nodes := puts.node?_eq sound (descends.mono extension) absent
      rw [samePlace] at absent nodes
      refine ⟨puts.extends.workingDirectory.trans fills.workingDirectory,
        fun location => ?_, reported ?_⟩
      · rw [nodes, filling?_concat, ← Option.or_assoc, ← fills.nodes]
      · simp [fate_eq fills, absent]

/-- Unless files are replaced, those that are missing are added, and nothing else changes. -/
theorem fills_of_writeFiles (sound : tree.IsSound)
    (descends : ∀ file ∈ files, tree.Descends (file.target directory))
    (ran : runOn (writeFiles directory false files).run tree = (.ok report, after)) :
    Fills tree directory files after report := by
  refine (induct_of_writeFiles (motive := fun earlier current sofar =>
    (current.IsSound ∧ tree.Extends current) ∧ Fills tree directory earlier current sofar)
    ran ⟨⟨sound, .refl tree⟩, rfl, by simp [filling?], rfl⟩ ?_).2
  intro earlier file later current next sofar result split ⟨⟨sound, extension⟩, fills⟩ writes
  have descends : tree.Descends (file.target directory) := descends file (by simp [split])
  exact ⟨⟨writes.sound sound, extension.trans writes.extends⟩,
    fills.step sound extension descends writes⟩

end Filling

section Replacing

/-- The last of several files that has its place at a location. -/
def lastAt? (tree : FileTree) (directory : String) (files : List OutputFile)
    (location : Location) : Option OutputFile :=
  files.reverse.find? fun file => location = file.placeIn tree directory

/-- A disk on which files have been written whatever was there before. -/
structure Replaces (tree : FileTree) (directory : String) (files : List OutputFile)
    (after : FileTree) (report : WriteReport) : Prop where
  workingDirectory : after.workingDirectory = tree.workingDirectory
  replaced : ∀ location file, lastAt? tree directory files location = some file →
    after.node? location = some (.file file.text)
  others : ∀ location, lastAt? tree directory files location = none →
    after.node? location = tree.node? location ∨
      tree.node? location = none ∧ after.node? location = some .directory ∧
        ∃ file ∈ files, ∃ outer ∈ Path.ancestors (Path.parent (file.target directory)),
          location = tree.place outer
  report : report = .ofResults (files.map fun file => (file.path, .written))

theorem lastAt?_concat : lastAt? tree directory (files ++ [file]) location =
    if location = file.placeIn tree directory then some file
    else lastAt? tree directory files location := by
  rw [lastAt?, List.reverse_append, List.reverse_singleton, List.singleton_append,
    List.find?_cons]
  by_cases here : location = file.placeIn tree directory <;> simp [here, lastAt?]

theorem exists_lastAt? (member : file ∈ files) :
    ∃ other, lastAt? tree directory files (file.placeIn tree directory) = some other := by
  rw [← Option.isSome_iff_exists, lastAt?, List.find?_isSome]
  exact ⟨file, List.mem_reverse.2 member, by simp⟩

theorem Replaces.step (replaces : Replaces tree directory earlier after report)
    (extension : tree.Extends after)
    (puts : after.Puts (file.target directory) file.text last) :
    Replaces tree directory (earlier ++ [file]) last (report.add file.path .written) := by
  have samePlace : after.place (file.target directory) = file.placeIn tree directory :=
    extension.place_eq _
  refine ⟨puts.extends.workingDirectory.trans replaces.workingDirectory, ?_, ?_, ?_⟩
  · intro location other isLast
    have nodes := puts.node?_cases location
    rw [lastAt?_concat] at isLast
    rw [samePlace] at nodes
    by_cases here : location = file.placeIn tree directory
    · rw [if_pos here, Option.some.injEq] at isLast
      rw [if_pos here] at nodes
      rw [nodes, isLast]
    · rw [if_neg here] at isLast nodes
      have there := replaces.replaced location other isLast
      obtain same | ⟨absent, -⟩ := nodes
      · rw [same, there]
      · rw [there] at absent
        cases absent
  · intro location none
    have nodes := puts.node?_cases location
    rw [lastAt?_concat] at none
    rw [samePlace] at nodes
    by_cases here : location = file.placeIn tree directory
    · rw [if_pos here] at none
      cases none
    · rw [if_neg here] at none nodes
      obtain before | ⟨absent, isDirectory, other, isOther, outer, isOuter, rfl⟩ :=
        replaces.others location none
      · obtain same | ⟨absent, isDirectory, outer, isOuter, rfl⟩ := nodes
        · exact .inl (same.trans before)
        · refine .inr ⟨before.symm.trans absent, isDirectory, file, by simp, outer, isOuter, ?_⟩
          exact extension.place_eq outer
      · refine .inr ⟨absent, puts.extends.directory isDirectory, other, ?_, outer, isOuter, rfl⟩
        exact List.mem_append_left _ isOther
  · rw [List.map_append, List.map_singleton, WriteReport.ofResults_concat, ← replaces.report]

theorem Writes.replaced (writes : Writes tree directory true file result after) :
    result = .written ∧ tree.Puts (file.target directory) file.text after := by
  cases writes with
  | kept keeps there => cases keeps
  | put free puts => exact ⟨rfl, puts⟩

/-- If files are replaced, the last one for each place stays, and but for the directories on the way
nothing else changes. -/
theorem replaces_of_writeFiles
    (ran : runOn (writeFiles directory true files).run tree = (.ok report, after)) :
    Replaces tree directory files after report := by
  refine (induct_of_writeFiles (motive := fun earlier current sofar =>
    tree.Extends current ∧ Replaces tree directory earlier current sofar)
    ran ⟨.refl tree, rfl, by simp [lastAt?], by simp, rfl⟩ ?_).2
  intro earlier file later current next sofar result split ⟨extension, replaces⟩ writes
  obtain ⟨rfl, puts⟩ := writes.replaced
  exact ⟨extension.trans puts.extends, replaces.step extension puts⟩

end Replacing

section Again

/-- Every file that has been dealt with is there. -/
theorem find_of_writeFiles
    (ran : runOn (writeFiles directory replace files).run tree = (.ok report, after)) :
    ∀ file ∈ files, ∃ node, after.find (file.target directory) = .ok node := by
  refine induct_of_writeFiles (motive := fun earlier current _ => ∀ file ∈ earlier,
    ∃ node, current.find (file.target directory) = .ok node) ran (by simp) ?_
  intro earlier file later current next sofar result split there writes other member
  obtain member | isLast := List.mem_append.1 member
  · obtain ⟨node, found⟩ := there other member
    exact FileTree.find_mono writes.extends found
  · obtain rfl := List.mem_singleton.1 isLast
    cases writes with
    | kept keeps found => exact ⟨_, found⟩
    | put free puts => exact ⟨_, puts.find_eq_ok⟩

theorem writeFiles_again_of_kept
    (ran : runOn (writeFiles directory false files).run tree = (.ok report, after)) :
    runOn (writeFiles directory false files).run after =
      (.ok (.ofResults (files.map fun file => (file.path, .skipped))), after) := by
  have there := find_of_writeFiles ran
  have keeps : ∃ final last, runOn (writeFiles directory false files).run after =
      (.ok final, last) ∧ last = after ∧
        final = .ofResults (files.map fun file => (file.path, .skipped)) := by
    refine exists_runOn_writeFiles (motive := fun earlier current sofar => current = after ∧
      sofar = .ofResults (earlier.map fun file => (file.path, .skipped))) ⟨rfl, rfl⟩ ?_
    rintro earlier file later current sofar split ⟨rfl, rfl⟩
    obtain ⟨node, found⟩ := there file (by simp [split])
    refine ⟨.skipped, current, .kept rfl found, rfl, ?_⟩
    rw [List.map_append, List.map_singleton, WriteReport.ofResults_concat]
  obtain ⟨final, last, again, rfl, rfl⟩ := keeps
  exact again

/-- Every file that has been put can be put again. -/
theorem puts_again_of_writeFiles
    (ran : runOn (writeFiles directory true files).run tree = (.ok report, after)) :
    ∀ file ∈ files, ∀ next, after.Extends next → next.Puts (file.target directory) file.text
      (next.set (file.placeIn next directory) (.file file.text)) := by
  refine induct_of_writeFiles (motive := fun earlier current _ => ∀ file ∈ earlier,
    ∀ next, current.Extends next → next.Puts (file.target directory) file.text
      (next.set (file.placeIn next directory) (.file file.text))) ran (by simp) ?_
  intro earlier file later current after sofar result split again writes other member next extension
  obtain member | isLast := List.mem_append.1 member
  · exact again other member next (writes.extends.trans extension)
  · obtain rfl := List.mem_singleton.1 isLast
    exact writes.replaced.2.again extension

/-- Disks on which the same is found in the same order are the same. -/
theorem eq_of_node? (sound : after.IsSound) (directories : last.workingDirectory = after.workingDirectory)
    (keys : last.nodes.map Prod.fst = after.nodes.map Prod.fst)
    (nodes : ∀ location, last.node? location = after.node? location) : last = after := by
  have same : last.nodes = after.nodes := by
    refine FileTree.eq_of_lookup sound.distinct keys fun location member => ?_
    have nonroot : location ≠ [] := fun root => sound.nonroot (root ▸ member)
    have found := nodes location
    simpa [FileTree.node?, nonroot] using found
  calc last = ⟨last.nodes, last.workingDirectory⟩ := rfl
    _ = after := by rw [same, directories]

/-- A disk on which some of the files have been put again. -/
structure Repeats (tree : FileTree) (directory : String) (earlier : List OutputFile)
    (after current : FileTree) : Prop where
  extension : after.Extends current
  keys : current.nodes.map Prod.fst = after.nodes.map Prod.fst
  nodes : ∀ location, current.node? location =
    ((lastAt? tree directory earlier location).map fun file => FileNode.file file.text).or
      (after.node? location)

theorem Repeats.step (repeats : Repeats tree directory earlier after last)
    (extension : tree.Extends after) (replaces : Replaces tree directory files after report)
    (member : file ∈ files)
    (puts : last.Puts (file.target directory) file.text
      (last.set (file.placeIn last directory) (.file file.text))) :
    Repeats tree directory (earlier ++ [file]) after
      (last.set (file.placeIn last directory) (.file file.text)) := by
  have here : file.placeIn last directory = file.placeIn tree directory :=
    (repeats.extension.place_eq _).trans (extension.place_eq _)
  have nonroot : file.placeIn last directory ≠ [] := FileTree.place_ne_nil puts.endsWithName
  have listed : file.placeIn last directory ∈ last.nodes.map Prod.fst := by
    obtain ⟨other, isLast⟩ : ∃ other, lastAt? tree directory files
        (file.placeIn tree directory) = some other := exists_lastAt? member
    have there := replaces.replaced _ other isLast
    rw [← here] at there
    have found : after.node? (file.placeIn last directory) ≠ none := by simp [there]
    rw [repeats.keys]
    exact (FileTree.node?_ne_none_iff.1 found).resolve_left nonroot
  refine ⟨repeats.extension.trans puts.extends, ?_, fun location => ?_⟩
  · rw [FileTree.set, FileTree.keys_setNode_of_mem listed, repeats.keys]
  · rw [FileTree.node?_set nonroot, lastAt?_concat, repeats.nodes, here]
    by_cases same : location = file.placeIn tree directory <;> simp [same]

theorem writeFiles_again_of_replaced (sound : after.IsSound) (extension : tree.Extends after)
    (ran : runOn (writeFiles directory true files).run tree = (.ok report, after)) :
    runOn (writeFiles directory true files).run after = (.ok report, after) := by
  have replaces := replaces_of_writeFiles ran
  have puts := puts_again_of_writeFiles ran
  have repeated : ∃ final last, runOn (writeFiles directory true files).run after =
      (.ok final, last) ∧ Repeats tree directory files after last ∧
        final = .ofResults (files.map fun file => (file.path, .written)) := by
    refine exists_runOn_writeFiles (motive := fun earlier current sofar =>
      Repeats tree directory earlier after current ∧
        sofar = .ofResults (earlier.map fun file => (file.path, .written)))
      ⟨⟨.refl after, rfl, fun _ => rfl⟩, rfl⟩ ?_
    rintro earlier file later current sofar split ⟨repeats, rfl⟩
    have member : file ∈ files := by simp [split]
    have put := puts file member current repeats.extension
    refine ⟨.written, _, .put (.inl rfl) put, repeats.step extension replaces member put, ?_⟩
    rw [List.map_append, List.map_singleton, WriteReport.ofResults_concat]
  obtain ⟨final, last, again, repeats, rfl⟩ := repeated
  have same : last = after := by
    refine eq_of_node? sound repeats.extension.workingDirectory repeats.keys fun location => ?_
    rw [repeats.nodes]
    cases isLast : lastAt? tree directory files location with
    | none => rfl
    | some file => simp [replaces.replaced location file isLast]
  rw [again, same, replaces.report]

end Again

section Settling

theorem descends_target (there : tree.hasDirectory directory = true ∨
    ".." ∉ Path.components directory) (down : ".." ∉ Path.components file.path) :
    tree.Descends (file.target directory) := by
  have split : Path.components (file.target directory) =
      Path.components directory ++ Path.components file.path := Path.components_below _ _
  obtain there | downToo := there
  · obtain ⟨leads, -⟩ := FileTree.hasDirectory_iff.1 there
    refine ⟨_, _, split, down, fun before name after cut => ?_⟩
    rw [OutputFile.target, FileTree.origin_below]
    exact leads.directories before name after cut
  · refine ⟨[], _, (List.nil_append _).symm, ?_, by simp⟩
    rw [split, List.mem_append, not_or]
    exact ⟨downToo, down⟩

/-- What writing files leaves behind. Unless files are replaced, whatever was there stays as it was,
each place where nothing was gets the first file that is for it or the directory for the first one
below it, and the report tells them apart. If files are replaced, each place gets the last file that
is for it. A second run changes nothing in either case. -/
theorem writeFiles_settles (sound : tree.IsSound)
    (ran : runOn (writeFiles directory replace files).run tree = (.ok report, after)) :
    after.IsSound ∧
      (replace = false → (∀ file ∈ files, tree.Descends (file.target directory)) →
        Fills tree directory files after report) ∧
      (replace = true → Replaces tree directory files after report) ∧
      runOn (writeFiles directory replace files).run after =
        (.ok (if replace then report
          else .ofResults (files.map fun file => (file.path, .skipped))), after) := by
  obtain ⟨soundToo, extension⟩ := sound_and_extends_of_writeFiles sound ran
  refine ⟨soundToo, ?_, ?_, ?_⟩
  · rintro rfl descends
    exact fills_of_writeFiles sound descends ran
  · rintro rfl
    exact replaces_of_writeFiles ran
  · cases replace with
    | false => exact writeFiles_again_of_kept ran
    | true => exact writeFiles_again_of_replaced soundToo extension ran

/-- A directory with a file in it. -/
def keptTree : FileTree where
  nodes := [(["scratch"], .directory), (["scratch", "a"], .file "kept")]
  workingDirectory := ["scratch"]

theorem isSound_keptTree : keptTree.IsSound :=
  ⟨by decide, by decide, by decide⟩

theorem fills_keptTree :
    let files := [⟨"a", .text "new"⟩, ⟨"b/c", .text "first"⟩, ⟨"b/c", .text "last"⟩]
    let filled : FileTree := { keptTree with
      nodes := keptTree.nodes ++ [(["scratch", "b"], .directory),
        (["scratch", "b", "c"], .file "first")] }
    Fills keptTree "/scratch" files filled { written := ["b/c"], skipped := ["a", "b/c"] } ∧
      runOn (writeFiles "/scratch" false files).run filled =
        (.ok { skipped := ["a", "b/c", "b/c"] }, filled) := by
  intro files filled
  have ran : runOn (writeFiles "/scratch" false files).run keptTree =
      (.ok { written := ["b/c"], skipped := ["a", "b/c"] }, filled) := by decide +kernel
  have descends : ∀ file ∈ files, keptTree.Descends (file.target "/scratch") := by
    intro file member
    refine descends_target (.inr (by decide +kernel)) ?_
    revert file
    decide +kernel
  obtain ⟨-, fills, -, again⟩ := writeFiles_settles isSound_keptTree ran
  exact ⟨fills rfl descends, again⟩

/-- A path that goes up again through a missing directory leads to a file that was not found. -/
theorem exists_kept_text_lost : ∃ (tree after : FileTree) (directory : String)
    (files : List OutputFile) (report : WriteReport) (location : Location),
      tree.IsSound ∧ runOn (writeFiles directory false files).run tree = (.ok report, after) ∧
        tree.node? location = some (.file "kept") ∧ after.node? location = some (.file "new") :=
  ⟨keptTree, { keptTree with nodes := [(["scratch"], .directory), (["scratch", "a"], .file "new"),
      (["scratch", "x"], .directory)] }, "/scratch", [⟨"x/../a", .text "new"⟩],
    { written := ["x/../a"] }, ["scratch", "a"], isSound_keptTree, by decide +kernel, rfl, rfl⟩

end Settling

end TypeScript

end ODataClient
