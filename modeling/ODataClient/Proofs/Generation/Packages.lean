import ODataClient.Proofs.Disk.Places
import ODataClient.Proofs.Generation.MappingFile
import ODataClient.Proofs.TypeScript.Layout
import ODataClient.Proofs.TypeScript.ServiceNames

/-!
# Packages beside each other

Each file of a package lies directly in the directory of its service, and no two services selected
have one directory. The package that brings them together is not asked for its directory, so it may
share one with a service, and then their descriptions have one path.
-/

namespace ODataClient

open Unicode (IsNameText)

/-- A name of a file, which leads to one place in a directory. -/
structure Path.IsFileName (name : String) : Prop where
  plain : '/' ∉ name.toList
  nonempty : name ≠ ""
  isName : Path.isStep name = false

namespace TypeScript

open ODataClient.Path (IsFileName)

variable {service : Service} {options : PackageOptions} {files : List OutputFile} {name : String}

/-- The names of the files of a package. -/
def fileNames (service : Service) (options : PackageOptions) : List String :=
  (layout service options).map Prod.fst

theorem paths_of_package (made : package service options = .ok files) :
    files.map (·.path) = (fileNames service options).map (service.directoryName ++ "/" ++ ·) := by
  have layout := congrArg (List.map Prod.fst) (haveLayout_of_package made)
  simpa [fileNames, Function.comp_def] using layout

theorem mem_fileNames_iff : name ∈ fileNames service options ↔
    (∃ module ∈ moduleImports service, name = module.1 ++ ".ts") ∨ name = "index.ts" ∨
      name = "tsconfig.json" ∨ options.withPackageJson = true ∧ name = "package.json" := by
  rw [fileNames, layout, List.map_append, List.map_map, List.mem_append, List.mem_map]
  refine or_congr (exists_congr fun module => and_congr_right fun _ => eq_comm) ?_
  cases options.withPackageJson <;> simp

theorem getLast?_script (module : String) : (module ++ ".ts").toList.getLast? = some 's' := by
  rw [String.toList_append, List.getLast?_append]
  rfl

theorem ne_script {module : String} (ends : name.toList.getLast? ≠ some 's') :
    name ≠ module ++ ".ts" := by
  rintro rfl
  exact ends (getLast?_script module)

theorem packageJson_mem_fileNames_iff :
    "package.json" ∈ fileNames service options ↔ options.withPackageJson = true := by
  rw [mem_fileNames_iff]
  have apart (module : String) : "package.json" ≠ module ++ ".ts" := ne_script (by decide)
  simp [apart]

theorem mappingFileName_notMem_fileNames :
    Selection.mappingFileName ∉ fileNames service options := by
  rw [mem_fileNames_iff]
  have apart (module : String) : "service-mapping.json" ≠ module ++ ".ts" :=
    ne_script (by decide)
  simp [apart, Selection.mappingFileName]

theorem isFileName_script {module : String} (plain : '/' ∉ module.toList) :
    IsFileName (module ++ ".ts") := by
  constructor
  · rw [String.toList_append, List.mem_append, not_or]
    exact ⟨plain, by decide⟩
  · exact (ne_script (by decide)).symm
  · have here : "." ≠ module ++ ".ts" := ne_script (by decide)
    have up : ".." ≠ module ++ ".ts" := ne_script (by decide)
    simp [Path.isStep, here.symm, up.symm]

theorem notMem_of_isNameText {text : List Char} (isName : IsNameText text) : '/' ∉ text :=
  fun member => absurd (isName _ member) (by decide)

theorem notMem_of_mem_moduleImports (spelled : IsSpelled service) :
    ∀ module ∈ moduleImports service, '/' ∉ module.1.toList := by
  have classes (entity) (member : entity ∈ service.entities) : '/' ∉ entity.className.toList := by
    refine notMem_of_isNameText (spelled _ ?_)
    simp only [Service.typeNames, Service.namedTypes, List.map_append, List.map_map]
    exact List.mem_append_left _ (List.mem_append_left _ (List.mem_map_of_mem member))
  intro module member
  simp only [moduleImports, List.mem_append, List.mem_map] at member
  obtain ((⟨entity, isEntity, rfl⟩ | ⟨entity, isEntity, rfl⟩) | ⟨type, isType, rfl⟩) | isListing :=
    member
  · exact classes entity isEntity
  · rw [requestBuilderClass, String.toList_append, List.mem_append, not_or]
    exact ⟨classes entity isEntity, by decide⟩
  · refine notMem_of_isNameText (spelled _ ?_)
    simp only [Service.typeNames, Service.namedTypes, List.map_append, List.map_map]
    exact List.mem_append_left _ (List.mem_append_right _ (List.mem_map_of_mem isType))
  · split at isListing
    · cases isListing
    · have plain : '/' ∉ FunctionImportsFile.fileName.toList := by decide
      rwa [List.mem_singleton.1 isListing]

theorem isFileName_of_mem (spelled : IsSpelled service)
    (member : name ∈ fileNames service options) : IsFileName name := by
  obtain ⟨module, isModule, rfl⟩ | rfl | rfl | ⟨-, rfl⟩ := mem_fileNames_iff.1 member
  · exact isFileName_script (notMem_of_mem_moduleImports spelled module isModule)
  · exact ⟨by decide, by decide, by decide⟩
  · exact ⟨by decide, by decide, by decide⟩
  · exact ⟨by decide, by decide, by decide⟩

end TypeScript

namespace Generation

open ODataClient.Path (IsFileName)
open TypeScript (OutputFile fileNames)

variable {options : GenerationOptions} {selection : Selection} {prepared : Preparation}
  {generated other : GeneratedService} {package : TypeScript.PackageOptions}

section Producers

variable {κ δ : Type} {key : String → κ} {base : String → δ}

/-- The files of a run, for each service selected and for each file beside the packages. -/
def producers (options : GenerationOptions) (selection : Selection) : List (List OutputFile) :=
  selection.accepted.map GeneratedService.files ++
    (selection.sharedFiles options.aggregator options.package).map fun file => [file]

theorem flatten_producers : (producers options selection).flatten =
    selection.accepted.flatMap GeneratedService.files ++
      selection.sharedFiles options.aggregator options.package := by
  rw [producers, List.flatten_append, ← List.flatMap_def, ← List.flatMap_def,
    List.flatMap_singleton']

/-- No file of one list has the key of a file of another one. -/
def AreApart (key : String → κ) (lists : List (List OutputFile)) : Prop :=
  lists.Pairwise fun first second =>
    ∀ file ∈ first, ∀ other ∈ second, key file.path ≠ key other.path

/-- A key by which files in directories are told apart, as far as the directories are. -/
structure TellsFiles (key : String → κ) (base : String → δ) : Prop where
  same_iff : ∀ directory other name further, IsFileName name → IsFileName further →
    (key (directory ++ "/" ++ name) = key (other ++ "/" ++ further) ↔
      base directory = base other ∧ name = further)
  top : ∀ directory name, IsFileName name →
    key (directory ++ "/" ++ name) = key Selection.mappingFileName →
      name = Selection.mappingFileName

/-- A service with all files of its package. -/
structure IsLaidOut (package : TypeScript.PackageOptions) (generated : GeneratedService) :
    Prop where
  paths : generated.files.map (·.path) =
    (fileNames generated.service package).map (generated.service.directoryName ++ "/" ++ ·)
  names : ∀ name ∈ fileNames generated.service package, IsFileName name

theorem package_of_generateService {mappings : ServiceMappings} {input : ServiceInput}
    {package : TypeScript.PackageOptions}
    (made : generateService mappings package input = .ok generated) :
    TypeScript.package generated.service package = .ok generated.files := by
  obtain ⟨findings, modelled⟩ := model_of_generateService made
  simp only [generateService, modelled] at made
  split at made
  · cases made
  · next files packaged =>
    rw [packaged, ← Except.ok.inj made]

theorem isLaidOut_of_accepted (accepted : generated ∈ (prepared.selection package).accepted) :
    IsLaidOut package generated := by
  obtain ⟨source, input, -, made⟩ := exists_reading_of_accepted accepted
  obtain ⟨findings, modelled⟩ := model_of_generateService made
  obtain ⟨schema, isBuilt⟩ := Pipeline.model_generationPipeline_eq_ok_iff.1 modelled
  exact ⟨TypeScript.paths_of_package (package_of_generateService made),
    fun name => TypeScript.isFileName_of_mem (TypeScript.isSpelled_of_isBuilt isBuilt)⟩

theorem forall_path_iff (laidOut : IsLaidOut package generated) (holds : String → Prop) :
    (∀ file ∈ generated.files, holds file.path) ↔ ∀ name ∈ fileNames generated.service package,
      holds (generated.service.directoryName ++ "/" ++ name) := by
  have paths : (∀ path ∈ generated.files.map (·.path), holds path) ↔
      ∀ file ∈ generated.files, holds file.path := List.forall_mem_map
  rw [← paths, laidOut.paths, List.forall_mem_map]

/-- The packages of two services are apart exactly if their directories are, since each package has
an index. -/
theorem services_apart_iff (tells : TellsFiles key base) (first : IsLaidOut package generated)
    (second : IsLaidOut package other) :
    (∀ file ∈ generated.files, ∀ further ∈ other.files, key file.path ≠ key further.path) ↔
      base generated.service.directoryName ≠ base other.service.directoryName := by
  rw [forall_path_iff first fun path => ∀ further ∈ other.files, key path ≠ key further.path]
  constructor
  · intro apart same
    have index {service : Service} : "index.ts" ∈ fileNames service package :=
      TypeScript.mem_fileNames_iff.2 (.inr (.inl rfl))
    have isName : IsFileName "index.ts" := first.names _ index
    have others := (forall_path_iff second fun path => key _ ≠ key path).1 (apart _ index)
    exact others _ index ((tells.same_iff _ _ _ _ isName isName).2 ⟨same, rfl⟩)
  · intro differ name isName
    refine (forall_path_iff second fun path => key _ ≠ key path).2 fun further isNameToo same =>
      differ ?_
    exact ((tells.same_iff _ _ _ _ (first.names _ isName) (second.names _ isNameToo)).1 same).1

theorem mapping_apart (tells : TellsFiles key base) (laidOut : IsLaidOut package generated) :
    ∀ file ∈ generated.files, key file.path ≠ key Selection.mappingFileName := by
  refine (forall_path_iff laidOut fun path => key path ≠ key Selection.mappingFileName).2 ?_
  intro name isName same
  have name_eq := tells.top _ _ (laidOut.names name isName) same
  exact TypeScript.mappingFileName_notMem_fileNames (name_eq ▸ isName)

theorem aggregator_path (directory : String) :
    directory ++ "/package.json" = directory ++ "/" ++ "package.json" := by
  rw [String.append_assoc]
  rfl

theorem isFileName_packageJson : IsFileName "package.json" :=
  ⟨by decide, by decide, by decide⟩

/-- The package of a service and the one that brings packages together are apart exactly if their
directories are or only one of them is described. -/
theorem aggregator_apart_iff (tells : TellsFiles key base) (laidOut : IsLaidOut package generated)
    (directory : String) :
    (∀ file ∈ generated.files, key file.path ≠ key (directory ++ "/package.json")) ↔
      (package.withPackageJson = true →
        base generated.service.directoryName ≠ base directory) := by
  have isDescription := isFileName_packageJson
  rw [forall_path_iff laidOut fun path => key path ≠ key (directory ++ "/package.json"),
    aggregator_path]
  constructor
  · intro apart described same
    have member : "package.json" ∈ fileNames generated.service package :=
      TypeScript.packageJson_mem_fileNames_iff.2 described
    exact apart _ member ((tells.same_iff _ _ _ _ isDescription isDescription).2 ⟨same, rfl⟩)
  · intro differ name isName same
    obtain ⟨together, rfl⟩ :=
      (tells.same_iff _ _ _ _ (laidOut.names name isName) isDescription).1 same
    exact differ (TypeScript.packageJson_mem_fileNames_iff.1 isName) together

theorem aggregator_apart_mapping (tells : TellsFiles key base) (directory : String) :
    key Selection.mappingFileName ≠ key (directory ++ "/package.json") := by
  rw [aggregator_path]
  intro same
  have wrong := tells.top _ _ isFileName_packageJson same.symm
  exact absurd wrong (by decide)

theorem sharedFiles_apart_iff (tells : TellsFiles key base)
    (laidOut : ∀ generated ∈ selection.accepted, IsLaidOut options.package generated) :
    (∀ generated ∈ selection.accepted,
      ∀ shared ∈ selection.sharedFiles options.aggregator options.package,
        ∀ file ∈ generated.files, key file.path ≠ key shared.path) ↔
      ∀ aggregator ∈ options.aggregator, options.package.withPackageJson = true →
        base aggregator.directoryName ∉
          selection.services.map fun service => base service.directoryName := by
  constructor
  · intro apart aggregator chosen described together
    obtain ⟨service, isService, same⟩ := List.mem_map.1 together
    obtain ⟨generated, accepted, rfl⟩ := List.mem_map.1 isService
    have isShared : selection.aggregatorFile aggregator options.package ∈
        selection.sharedFiles options.aggregator options.package := by
      simp [Selection.sharedFiles, Option.mem_def.1 chosen]
    have description := aggregator_apart_iff tells (laidOut _ accepted) aggregator.directoryName
    exact description.1 (apart generated accepted _ isShared) described same
  · intro free generated accepted shared isShared
    obtain isMapping | isAggregator := List.mem_append.1 isShared
    · obtain ⟨text, -, rfl⟩ := List.mem_map.1 isMapping
      exact mapping_apart tells (laidOut generated accepted)
    · obtain ⟨aggregator, chosen, rfl⟩ := List.mem_map.1 isAggregator
      refine (aggregator_apart_iff tells (laidOut _ accepted) _).2 fun described same => ?_
      refine free aggregator (Option.mem_toList.1 chosen) described (List.mem_map.2 ?_)
      exact ⟨generated.service, List.mem_map_of_mem accepted, same⟩

/-- All that a run makes is apart exactly if the directories of the services are apart from each
other and, where packages are described, from that of the package that brings them together. -/
theorem areApart_producers_iff (tells : TellsFiles key base)
    (laidOut : ∀ generated ∈ selection.accepted, IsLaidOut options.package generated) :
    AreApart key (producers options selection) ↔
      (selection.services.map fun service => base service.directoryName).Nodup ∧
        ∀ aggregator ∈ options.aggregator, options.package.withPackageJson = true →
          base aggregator.directoryName ∉
            selection.services.map fun service => base service.directoryName := by
  have services : (selection.accepted.Pairwise fun first second => ∀ file ∈ first.files,
      ∀ further ∈ second.files, key file.path ≠ key further.path) ↔
        (selection.services.map fun service => base service.directoryName).Nodup := by
    rw [List.Nodup, Selection.services, List.pairwise_map, List.pairwise_map]
    refine List.Pairwise.iff_of_mem fun first second => ?_
    exact services_apart_iff tells (laidOut _ first) (laidOut _ second)
  have shared : (selection.sharedFiles options.aggregator options.package).Pairwise
      fun first second => key first.path ≠ key second.path := by
    have description := aggregator_apart_mapping tells
    rw [Selection.sharedFiles]
    cases selection.mappingText? <;> cases options.aggregator <;>
      simp [Selection.aggregatorFile, TypeScript.aggregatorFile, description]
  rw [AreApart, producers, List.pairwise_append, List.pairwise_map, List.pairwise_map, services,
    ← sharedFiles_apart_iff tells laidOut]
  simp only [List.forall_mem_map, List.mem_singleton, forall_eq, shared, true_and]

end Producers

section Keys

/-- What stands behind the last slash can be told. -/
theorem append_slash_inj {before other name further : List Char} (plain : '/' ∉ name)
    (plainToo : '/' ∉ further) :
    before ++ '/' :: name = other ++ '/' :: further ↔ before = other ∧ name = further := by
  refine ⟨fun same => ?_, by rintro ⟨rfl, rfl⟩; rfl⟩
  obtain ⟨more, rfl, rest⟩ | ⟨more, rfl, rest⟩ := List.append_eq_append_iff.1 same
  · cases more with
    | nil => simpa using rest
    | cons c more =>
        obtain ⟨-, behind⟩ := List.cons.inj rest
        exact absurd (behind ▸ List.mem_append_right more List.mem_cons_self) plain
  · cases more with
    | nil => simpa [eq_comm] using rest
    | cons c more =>
        obtain ⟨-, behind⟩ := List.cons.inj rest
        exact absurd (behind ▸ List.mem_append_right more List.mem_cons_self) plainToo

theorem toList_inDirectory (directory name : String) : (directory ++ "/" ++ name).toList =
    directory.toList ++ '/' :: name.toList := by
  simp

theorem tellsFiles_path : TellsFiles (fun path => path) fun directory => directory := by
  constructor
  · intro directory other name further isName isNameToo
    simp only [← String.toList_inj, toList_inDirectory,
      append_slash_inj isName.plain isNameToo.plain]
  · intro directory name isName same
    have slash : '/' ∈ Selection.mappingFileName.toList := by
      rw [← same, toList_inDirectory]
      simp
    exact absurd slash (by decide)

theorem components_of_isFileName {name : String} (isName : IsFileName name) :
    Path.components name = [name] := by
  simp [Path.components_of_notMem isName.plain, isName.nonempty]

/-- A file in a directory has its place below that of the directory. -/
theorem place_below_file (tree : FileTree) (output directory : String) {name : String}
    (isName : IsFileName name) : tree.place (Path.below output (directory ++ "/" ++ name)) =
      tree.place (Path.below output directory) ++ [name] := by
  have split : Path.components (directory ++ "/" ++ name) = Path.components directory ++ [name] := by
    rw [Path.components_eq, toList_inDirectory, Path.namesIn_append, ← Path.components_eq,
      ← Path.components_eq, components_of_isFileName isName]
  rw [FileTree.place_below, FileTree.place_below, split, List.foldl_append, List.foldl_cons,
    List.foldl_nil, FileTree.stepTo_of_isStep_eq_false isName.isName]

theorem tellsFiles_place (tree : FileTree) (output : String) :
    TellsFiles (fun path => tree.place (Path.below output path))
      fun directory => tree.place (Path.below output directory) := by
  constructor
  · intro directory other name further isName isNameToo
    simp only [place_below_file tree output _ isName, place_below_file tree output _ isNameToo]
    simp
  · intro directory name isName same
    have isMapping : IsFileName Selection.mappingFileName := ⟨by decide, by decide, by decide⟩
    have top : tree.place (Path.below output Selection.mappingFileName) =
        tree.place output ++ [Selection.mappingFileName] := by
      rw [FileTree.place_below, components_of_isFileName isMapping, List.foldl_cons, List.foldl_nil,
        FileTree.stepTo_of_isStep_eq_false isMapping.isName]
    simp only [place_below_file tree output _ isName, top] at same
    simpa using congrArg List.getLast? same

end Keys

section Results

variable {σ : Type} [Disk (StateM σ)] {disk after : σ} {report : GenerationReport}

/-- What a run makes is apart unless packages are described and the package that brings them
together is put into the directory of one of them. On a disk, the directories themselves must lead
to different places, too. -/
theorem areApart_iff_of_generate (ran : runOn (generate options).run disk = (.ok report, after)) :
    ∃ prepared middle, runOn (prepare options).run disk = (.ok prepared, middle) ∧
      let selection := prepared.selection options.package
      let directories := report.services.map (·.directoryName)
      report.services = selection.services ∧
      (options.isDryRun = true → report.result = .shown (producers options selection).flatten) ∧
      (AreApart (fun path => path) (producers options selection) ↔
        ∀ aggregator ∈ options.aggregator, options.package.withPackageJson = true →
          aggregator.directoryName ∉ directories) ∧
      ∀ tree : FileTree,
        let placeOf (path : String) := tree.place (Path.below options.outputDirectory path)
        AreApart placeOf (producers options selection) ↔
          (directories.map placeOf).Nodup ∧
            ∀ aggregator ∈ options.aggregator, options.package.withPackageJson = true →
              placeOf aggregator.directoryName ∉ directories.map placeOf := by
  obtain ⟨prepared, middle, prepares, carries⟩ := generate_eq_ok_iff.1 ran
  obtain ⟨services, -⟩ := report_of_carryOut carries
  have laidOut : ∀ generated ∈ (prepared.selection options.package).accepted,
      IsLaidOut options.package generated := fun _ => isLaidOut_of_accepted
  refine ⟨prepared, middle, prepares, services, ?_, ?_, fun tree => ?_⟩
  · intro dry
    rw [carryOut, if_pos dry] at carries
    obtain ⟨rfl, -⟩ := runOn_pure_eq_ok.1 carries
    rw [flatten_producers]
    rfl
  · rw [areApart_producers_iff tellsFiles_path laidOut, services]
    exact and_iff_right (Selection.nodup_directories _)
  · have apart := areApart_producers_iff (tellsFiles_place tree options.outputDirectory) laidOut
    simpa only [services, List.map_map, Function.comp_def] using apart

/-- A run that describes the package of one shop and puts another package beside it. -/
def besideOptions (directory : String) : GenerationOptions :=
  { shopOptions with
    package := { withPackageJson := true }
    aggregator := some { npmPackageName := directory, directoryName := directory } }

theorem prepare_beside (directory : String) :
    runOn (prepare (besideOptions directory)).run (oneShop []) =
      (.ok oneShopPrepared, oneShop []) := by
  have same : (prepare (besideOptions directory) : ExceptT RunError (StateM FileTree) _) =
      prepare { shopOptions with isDryRun := true } := prepare_congr rfl rfl rfl
  rw [same]
  exact prepare_oneShop true (.inl rfl)

theorem generate_beside (directory : String) :
    runOn (generate (besideOptions directory)).run (oneShop []) =
      (.ok (plan (besideOptions directory) (oneShopPrepared.selection { withPackageJson := true })),
        oneShop []) := by
  refine generate_eq_ok_iff.2 ⟨oneShopPrepared, oneShop [], prepare_beside directory, ?_⟩
  rw [carryOut, if_pos (by rfl), runOn_pure_eq_ok]
  exact ⟨rfl, rfl⟩

theorem services_beside : (oneShopPrepared.selection { withPackageJson := true }).services =
    [bareService "North" derivedMapping] := by
  have bare : generateService [] {} (bareInput "North") =
      .ok (bareClient "North" derivedMapping) :=
    @generateService_bare [] "North" none (by simp) (by simp) rfl
  obtain ⟨findings, modelled⟩ := model_of_generateService bare
  obtain ⟨schema, -, -, reported, built, -⟩ := Pipeline.model_generationPipeline_eq_ok_iff.1 modelled
  obtain ⟨files, packaged⟩ := (TypeScript.exists_package_of_buildFrom built).2
    { withPackageJson := true }
  have made : generateService [] { withPackageJson := true } (bareInput "North") = .ok {
      service := bareService "North" derivedMapping
      files
      warnings := findings.filter Diagnostic.isWarning } := by
    simp only [generateService, modelled]
    rw [show (bareClient "North" derivedMapping).service = _ from rfl] at packaged
    simp only [packaged]
    rfl
  rw [Preparation.selection, Preparation.attempts, oneShopPrepared, List.map_singleton, complete,
    made]
  rfl

theorem areApart_beside : ∃ report prepared middle,
    runOn (generate (besideOptions "all")).run (oneShop []) = (.ok report, oneShop []) ∧
    report.services = [bareService "North" derivedMapping] ∧
    runOn (prepare (besideOptions "all")).run (oneShop []) = (.ok prepared, middle) ∧
    AreApart (fun path => path)
      (producers (besideOptions "all") (prepared.selection { withPackageJson := true })) := by
  obtain ⟨prepared, middle, prepares, -, -, apart, -⟩ :=
    areApart_iff_of_generate (generate_beside "all")
  have services := (services_plan (besideOptions "all") _).trans services_beside
  refine ⟨_, prepared, middle, generate_beside "all", services, prepares, apart.2 ?_⟩
  rw [services]
  intro aggregator chosen _
  obtain rfl : _ = aggregator := Option.some.inj chosen
  decide

/-- Nothing keeps the package that brings packages together from taking the directory of one. -/
theorem exists_path_taken_twice : ∃ report,
    runOn (generate (besideOptions "shop")).run (oneShop []) = (.ok report, oneShop []) ∧
      runOn (prepare (besideOptions "shop")).run (oneShop []) = (.ok oneShopPrepared, oneShop []) ∧
      report.services.length = 1 ∧ ¬ AreApart (fun path => path)
        (producers (besideOptions "shop")
          (oneShopPrepared.selection { withPackageJson := true })) := by
  have services := (services_plan (besideOptions "shop") _).trans services_beside
  refine ⟨_, generate_beside "shop", prepare_beside "shop", by rw [services]; rfl, ?_⟩
  intro apart
  have laidOut : ∀ generated ∈ (oneShopPrepared.selection { withPackageJson := true }).accepted,
      IsLaidOut (besideOptions "shop").package generated :=
    fun _ => isLaidOut_of_accepted
  obtain ⟨-, free⟩ := (areApart_producers_iff tellsFiles_path laidOut).1 apart
  rw [services_beside] at free
  exact free _ rfl rfl (by decide)

end Results

end Generation

end ODataClient
