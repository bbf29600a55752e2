import ODataClient.Disk.FileTree
import ODataClient.Proofs.Generation.Writing
import ODataClient.Proofs.Model.Regeneration
import ODataClient.Proofs.Pipeline.Mapped
import ODataClient.Proofs.Pipeline.Served
import ODataClient.Proofs.ServiceMapping

/-!
# The mapping file of a run

A run puts down what was chosen for the services in a file that later runs can start from. Services
are known in it by the names of their metadata files. As long as no two services share such a name,
each is generated again just as it was; of those that share one, only the last is kept.
-/

namespace ODataClient.Generation

variable {σ : Type} [Disk (StateM σ)] {options : GenerationOptions} {disk after : σ}
  {report : GenerationReport} {mappings : ServiceMappings} {input : ServiceInput}
  {service : Service} {services : List Service} {findings : List Diagnostic}

theorem mappingText?_of_mem {selection : Selection} (member : service ∈ selection.services) :
    selection.mappingText? = some (ServiceMappings.ofServices selection.services).render := by
  obtain ⟨generated, accepted, -⟩ := List.mem_map.1 member
  have nonempty : selection.accepted.isEmpty = false := by
    rw [List.isEmpty_eq_false_iff]
    exact List.ne_nil_of_mem accepted
  simp [Selection.mappingText?, nonempty]

theorem eq_render_of_mappingText? {selection : Selection} {text : String}
    (written : selection.mappingText? = some text) :
    text = (ServiceMappings.ofServices selection.services).render := by
  rw [Selection.mappingText?] at written
  split at written
  · cases written
  · exact (Option.some.inj written).symm

/-- A service that finds its own names comes to the same model, however they were found before. -/
theorem model_again {others : ServiceMappings} (unmapped : input.mapping = none)
    (made : (generationPipeline mappings).model input = .ok (service, findings))
    (found : ∀ ns, others.lookup? service.fileName ns = some service.mapping) :
    (generationPipeline others).model input = .ok (service, findings) := by
  obtain ⟨schema, accepted, passes, reported, built, rfl⟩ :=
    Pipeline.model_generationPipeline_eq_ok_iff.1 made
  have fileName : service.fileName = input.fileName := Model.fileName_of_build built
  have chosen : input.mappedBy others schema.ns =
      { input with mapping := some service.mapping } := by
    rw [ServiceInput.mappedBy, unmapped, Option.none_or, ← fileName, found]
  refine Pipeline.model_generationPipeline_eq_ok_iff.2
    ⟨schema, accepted, passes, reported, ?_, rfl⟩
  rw [chosen]
  exact Model.build_again built

section Bare

/-- A metadata document with a namespace and nothing in it. -/
def bareText (ns : String) : String :=
  "<E><DataServices><Schema Namespace=\"" ++ ns ++ "\"/></DataServices></E>"

def bareInput (ns : String) : ServiceInput where
  fileName := "Shop"
  documents := [{ name := "Shop.edmx", text := bareText ns }]
  mapping := none
  swagger := none

def bareSchema (ns : String) : Schema where
  ns
  namespaces := [ns]
  entityTypes := []
  entitySets := []

/-- What is made up for a service in a file `Shop.edmx`. -/
def derivedMapping : ServiceMapping where
  directoryName := "shop"
  servicePath := "/sap/opu/odata/sap/Shop"
  npmPackageName := "shop"

/-- What may be chosen for one of several shops. -/
def branchMapping (name : String) : ServiceMapping where
  directoryName := name
  servicePath := "/shops/" ++ name
  npmPackageName := name

/-- What has been chosen for two shops, which are known by their namespaces. -/
def branchMappings : ServiceMappings :=
  [("North", branchMapping "north"), ("South", branchMapping "south")]

def bareService (ns : String) (chosen : ServiceMapping) : Service where
  ns
  fileName := "Shop"
  directoryName := chosen.directoryName
  npmPackageName := chosen.npmPackageName
  servicePath := chosen.servicePath
  className := "ShopService"
  moduleName := "shop"
  documentationUrl := none
  entities := []
  complexTypes := []
  functionImports := []

/-- The client of a service with nothing in it. -/
def bareClient (ns : String) (chosen : ServiceMapping) : GeneratedService where
  service := bareService ns chosen
  files := [
    ⟨chosen.directoryName ++ "/" ++ "index.ts", .source (TypeScript.indexFile [])⟩,
    ⟨chosen.directoryName ++ "/" ++ "tsconfig.json", .text TypeScript.tsConfig⟩]
  warnings := (Lint.all.flatMap (·.check (bareSchema ns))).filter Diagnostic.isWarning

theorem parse_bare : ∀ ns ∈ ["North", "South"],
    Schema.parse (bareInput ns).documents = .ok (bareSchema ns) := by
  decide +kernel

theorem passes_bare : ∀ ns ∈ ["North", "South"], (bareSchema ns).Passes Lint.all := by
  have others : ∀ ns ∈ ["North", "South"], (bareSchema ns).Passes Lint.all.tail := by
    unfold Schema.Passes
    decide +kernel
  intro ns member
  exact Schema.passes_all (Model.postOrder_of_nil rfl) (others ns member)

theorem build_bare : ∀ ns ∈ ["North", "South"],
    ∀ chosen ∈ [none, some (branchMapping "north"), some (branchMapping "south")],
      (Model.build TypeScript.language (Pipeline.modelInput
        { bareInput ns with mapping := chosen } (bareSchema ns))).toOption =
          some (bareService ns (chosen.getD derivedMapping), []) := by
  have ordered (ns : String) (chosen : Option ServiceMapping) : Model.orderedComplexTypes
      (Pipeline.modelInput { bareInput ns with mapping := chosen } (bareSchema ns)).schema =
        .ok [] := Model.orderedComplexTypes_of_nil rfl
  simp only [Model.build, Model.buildFrom, Model.service, ordered]
  decide +kernel

theorem generateService_bare {ns : String} {chosen : Option ServiceMapping}
    (isNamespace : ns ∈ ["North", "South"])
    (isChoice : chosen ∈ [none, some (branchMapping "north"), some (branchMapping "south")])
    (found : mappings.lookup? "Shop" ns = chosen) :
    generateService mappings {} (bareInput ns) =
      .ok (bareClient ns (chosen.getD derivedMapping)) := by
  have mapped : (bareInput ns).mappedBy mappings ns = { bareInput ns with mapping := chosen } := by
    rw [ServiceInput.mappedBy, ← found]
    rfl
  have built := Outcome.toOption_eq_some_iff.1 (build_bare ns isNamespace chosen isChoice)
  have packaged : TypeScript.package (bareService ns (chosen.getD derivedMapping)) {} =
      .ok (bareClient ns (chosen.getD derivedMapping)).files := rfl
  have made : (generationPipeline mappings).model (bareInput ns) =
      .ok (bareService ns (chosen.getD derivedMapping),
        Lint.all.flatMap (·.check (bareSchema ns)) ++ []) := by
    refine Pipeline.model_generationPipeline_eq_ok_iff.2
      ⟨bareSchema ns, parse_bare ns isNamespace, passes_bare ns isNamespace, [], ?_, rfl⟩
    change Model.build _ (Pipeline.modelInput ((bareInput ns).mappedBy mappings ns) _) = _
    rw [mapped, built]
  rw [generateService, made]
  simp only [packaged, List.append_nil]
  rfl

end Bare

section Shops

/-- A run that shows what would be generated. -/
def shopOptions : GenerationOptions where
  inputDirectory := "in"
  outputDirectory := "out"
  serviceMapping := none
  useSwagger := false
  replace := false
  package := {}
  changelog := none
  aggregator := none
  isDryRun := true

/-- A disk with one metadata file and a directory for what is generated. -/
def oneShop (nodes : List (Location × FileNode)) : FileTree where
  nodes := [
    (["in"], .directory), (["in", "Shop.edmx"], .file (bareText "North")),
    (["out"], .directory)] ++ nodes
  workingDirectory := []

/-- What is read from such a disk. -/
def oneShopPrepared : Preparation where
  mappings := []
  readings := [({ path := "in/Shop.edmx", fileName := "Shop" }, .ok (bareInput "North"))]

theorem prepare_oneShop (isDryRun : Bool) {nodes : List (Location × FileNode)}
    (isCase : nodes = [] ∨ nodes = [(["out", "shop"], .file "")]) :
    runOn (prepare { shopOptions with isDryRun }).run (oneShop nodes) =
      (.ok oneShopPrepared, oneShop nodes) := by
  have sources : ServiceSource.ofFiles "in" [["Shop.edmx"]] =
      [{ path := "in/Shop.edmx", fileName := "Shop" }] := by
    rw [ServiceSource.ofFiles, List.mergeSort_singleton]
    decide +kernel
  have found : runOn (discover "in").run (oneShop nodes) =
      (.ok (ServiceSource.ofFiles "in" [["Shop.edmx"]]), oneShop nodes) := by
    obtain rfl | rfl := isCase <;> rfl
  rw [sources] at found
  refine runOn_bind_eq_ok.2 ⟨_, _, found, ?_⟩
  refine runOn_bind_eq_ok.2 ⟨[], _, rfl, ?_⟩
  rfl

theorem selection_oneShop : oneShopPrepared.selection {} = {
    claims := [("shop", "Shop")]
    accepted := [bareClient "North" derivedMapping]
    failures := [] } := by
  have made : generateService [] {} (bareInput "North") =
      .ok (bareClient "North" derivedMapping) :=
    @generateService_bare [] "North" none (by simp) (by simp) rfl
  rw [Preparation.selection, Preparation.attempts, oneShopPrepared, List.map_singleton, complete,
    made]
  rfl

theorem generate_oneShop : runOn (generate shopOptions).run (oneShop []) =
    (.ok (plan shopOptions (oneShopPrepared.selection {})), oneShop []) :=
  generate_eq_ok_iff.2 ⟨oneShopPrepared, oneShop [], prepare_oneShop true (.inl rfl), rfl⟩

theorem services_oneShop : (plan shopOptions (oneShopPrepared.selection {})).services =
    [bareService "North" derivedMapping] := by
  rw [services_plan, selection_oneShop]
  rfl

/-- Two shops of one file name, with directories chosen by their namespaces. -/
def twoShops : FileTree where
  nodes := [
    (["in"], .directory), (["in", "north"], .directory), (["in", "south"], .directory),
    (["in", "north", "Shop.edmx"], .file (bareText "North")),
    (["in", "south", "Shop.edmx"], .file (bareText "South")),
    (["names.json"], .file (ServiceMappings.render branchMappings))]
  workingDirectory := []

def twoShopsPrepared : Preparation where
  mappings := branchMappings
  readings := [
    ({ path := "in/north/Shop.edmx", fileName := "Shop" }, .ok (bareInput "North")),
    ({ path := "in/south/Shop.edmx", fileName := "Shop" }, .ok (bareInput "South"))]

theorem discover_twoShops :
    runOn (discover "in").run twoShops = (.ok twoShopsPrepared.sources, twoShops) := by
  have sources : ServiceSource.ofFiles "in" [["north", "Shop.edmx"], ["south", "Shop.edmx"]] =
      twoShopsPrepared.sources := by
    -- sorting goes by well-founded recursion, so that it has to be shown that nothing moves
    rw [ServiceSource.ofFiles, List.mergeSort_of_pairwise (by decide)]
    decide +kernel
  have found : runOn (discover "in").run twoShops =
      (.ok (ServiceSource.ofFiles "in" [["north", "Shop.edmx"], ["south", "Shop.edmx"]]),
        twoShops) := rfl
  rwa [sources] at found

theorem prepare_twoShops :
    runOn (prepare { shopOptions with serviceMapping := some "names.json" }).run twoShops =
      (.ok twoShopsPrepared, twoShops) := by
  have chosen : runOn (loadMappings (some "names.json")).run twoShops =
      (.ok branchMappings, twoShops) := by
    have opened : runOn (require (fun _ => .unreadableMapping "names.json")
        (readText "names.json")).run twoShops =
          (.ok (ServiceMappings.render branchMappings), twoShops) := rfl
    refine runOn_bind_eq_ok.2 ⟨_, _, opened, ?_⟩
    rw [ServiceMappings.parse_render "names.json" (by decide)]
    rfl
  refine runOn_bind_eq_ok.2 ⟨_, _, discover_twoShops, ?_⟩
  refine runOn_bind_eq_ok.2 ⟨_, _, chosen, ?_⟩
  rfl

theorem selection_twoShops : twoShopsPrepared.selection {} = {
    claims := [("north", "Shop"), ("south", "Shop")]
    accepted := [
      bareClient "North" (branchMapping "north"), bareClient "South" (branchMapping "south")]
    failures := [] } := by
  have north : generateService branchMappings {} (bareInput "North") =
      .ok (bareClient "North" (branchMapping "north")) :=
    @generateService_bare _ "North" (some (branchMapping "north")) (by simp) (by simp) rfl
  have south : generateService branchMappings {} (bareInput "South") =
      .ok (bareClient "South" (branchMapping "south")) :=
    @generateService_bare _ "South" (some (branchMapping "south")) (by simp) (by simp) rfl
  rw [Preparation.selection, Preparation.attempts, twoShopsPrepared, List.map_cons,
    List.map_singleton, complete, complete, north, south]
  rfl

end Shops

section Results

/-- When the services of a run have file names of their own, the mapping file of the run leads from
what was read of each of them to the same model again. -/
theorem regenerates_of_generate (path : String)
    (ran : runOn (generate options).run disk = (.ok report, after))
    (distinct : (report.services.map (·.fileName)).Nodup) :
    ∃ prepared middle, runOn (prepare options).run disk = (.ok prepared, middle) ∧
      report.services = (prepared.selection options.package).services ∧
      ∀ service ∈ report.services, ∃ text written source input findings,
        (prepared.selection options.package).mappingText? = some text ∧
        ServiceMappings.parse path text = .ok written ∧
        (source, .ok input) ∈ prepared.readings ∧ input.mapping = none ∧
        (generationPipeline prepared.mappings).model input = .ok (service, findings) ∧
        (generationPipeline written).model input = .ok (service, findings) := by
  obtain ⟨prepared, middle, ranPrepare, ranRest⟩ := generate_eq_ok_iff.1 ran
  obtain ⟨services, -⟩ := report_of_carryOut ranRest
  refine ⟨prepared, middle, ranPrepare, services, ?_⟩
  rw [services] at distinct ⊢
  intro service member
  obtain ⟨generated, accepted, rfl⟩ := List.mem_map.1 member
  obtain ⟨source, input, isRead, generates⟩ := exists_reading_of_accepted accepted
  obtain ⟨findings, made⟩ := model_of_generateService generates
  obtain ⟨-, unmapped⟩ := input_of_prepare ranPrepare isRead
  refine ⟨_, _, source, input, findings, mappingText?_of_mem member,
    ServiceMappings.parse_render_ofServices path _, isRead, unmapped, made, ?_⟩
  exact model_again unmapped made (ServiceMappings.lookup?_ofServices distinct member)

theorem regenerates_oneShop : ∃ report,
    runOn (generate shopOptions).run (oneShop []) = (.ok report, oneShop []) ∧
    report.services = [bareService "North" derivedMapping] ∧
    (report.services.map (·.fileName)).Nodup ∧
    ∃ prepared middle, runOn (prepare shopOptions).run (oneShop []) = (.ok prepared, middle) ∧
      ∃ text written source input findings,
        (prepared.selection {}).mappingText? = some text ∧
        ServiceMappings.parse "service-mapping.json" text = .ok written ∧
        (source, .ok input) ∈ prepared.readings ∧
        (generationPipeline written).model input =
          .ok (bareService "North" derivedMapping, findings) := by
  have distinct : ((plan shopOptions (oneShopPrepared.selection {})).services.map
      (·.fileName)).Nodup := by
    rw [services_oneShop]
    decide
  obtain ⟨prepared, middle, ranPrepare, -, regenerates⟩ :=
    regenerates_of_generate "service-mapping.json" generate_oneShop distinct
  rw [services_oneShop] at regenerates
  obtain ⟨text, written, source, input, findings, isWritten, parsed, isRead, -, -, again⟩ :=
    regenerates (bareService "North" derivedMapping) List.mem_cons_self
  exact ⟨_, generate_oneShop, services_oneShop, distinct, prepared, middle, ranPrepare, text,
    written, source, input, findings, isWritten, parsed, isRead, again⟩

/-- What was chosen for the services of a run is all kept in the mapping file exactly if they have
file names of their own. Under each name there is what was chosen for the last service with it. -/
theorem keeps_iff_of_generate (path : String)
    (ran : runOn (generate options).run disk = (.ok report, after)) :
    ∃ prepared middle, runOn (prepare options).run disk = (.ok prepared, middle) ∧
      report.services = (prepared.selection options.package).services ∧
      ∀ text, (prepared.selection options.package).mappingText? = some text →
        ∃ written, ServiceMappings.parse path text = .ok written ∧
          (written.Keeps report.services ↔ (report.services.map (·.fileName)).Nodup) ∧
          ∀ name, Dictionary.get? written name =
            (report.services.reverse.find? (·.fileName = name)).map Service.mapping := by
  obtain ⟨prepared, middle, ranPrepare, ranRest⟩ := generate_eq_ok_iff.1 ran
  obtain ⟨services, -⟩ := report_of_carryOut ranRest
  refine ⟨prepared, middle, ranPrepare, services, ?_⟩
  intro text isWritten
  obtain rfl := eq_render_of_mappingText? isWritten
  rw [services]
  refine ⟨_, ServiceMappings.parse_render_ofServices path _, ?_, ?_⟩
  · exact ServiceMappings.keeps_ofServices_iff (Selection.nodup_directories _)
  · exact ServiceMappings.get?_ofServices _

theorem keeps_oneShop : ∃ report,
    runOn (generate shopOptions).run (oneShop []) = (.ok report, oneShop []) ∧
    report.services = [bareService "North" derivedMapping] ∧
    ∃ prepared middle text written,
      runOn (prepare shopOptions).run (oneShop []) = (.ok prepared, middle) ∧
      (prepared.selection {}).mappingText? = some text ∧
      ServiceMappings.parse "service-mapping.json" text = .ok written ∧
      written.Keeps report.services := by
  obtain ⟨prepared, middle, ranPrepare, services, keeps⟩ :=
    keeps_iff_of_generate "service-mapping.json" generate_oneShop
  rw [services_oneShop] at services keeps
  have member : bareService "North" derivedMapping ∈ (prepared.selection {}).services := by
    rw [← show _ = (prepared.selection {}).services from services]
    exact List.mem_cons_self
  obtain ⟨written, parsed, kept, -⟩ := keeps _ (mappingText?_of_mem member)
  refine ⟨_, generate_oneShop, services_oneShop, prepared, middle, _, written, ranPrepare,
    mappingText?_of_mem member, parsed, ?_⟩
  rw [services_oneShop]
  exact kept.2 (by decide)

/-- Both shops are generated, but the mapping file has lost the first. -/
theorem exists_service_not_kept : ∃ options report prepared text written,
    runOn (generate options).run twoShops = (.ok report, twoShops) ∧
    runOn (prepare options).run twoShops = (.ok prepared, twoShops) ∧
    (prepared.selection options.package).mappingText? = some text ∧
    ServiceMappings.parse "service-mapping.json" text = .ok written ∧
    report.services = [
      bareService "North" (branchMapping "north"), bareService "South" (branchMapping "south")] ∧
    written = [("Shop", branchMapping "south")] ∧ ¬ written.Keeps report.services := by
  let options : GenerationOptions := { shopOptions with serviceMapping := some "names.json" }
  let north := bareService "North" (branchMapping "north")
  let south := bareService "South" (branchMapping "south")
  have ran : runOn (generate options).run twoShops =
      (.ok (plan options (twoShopsPrepared.selection {})), twoShops) :=
    generate_eq_ok_iff.2 ⟨twoShopsPrepared, twoShops, prepare_twoShops, rfl⟩
  have services : (twoShopsPrepared.selection {}).services = [north, south] := by
    rw [selection_twoShops]
    rfl
  have text : (twoShopsPrepared.selection {}).mappingText? =
      some (ServiceMappings.ofServices [north, south]).render := by
    have member : north ∈ (twoShopsPrepared.selection {}).services := by
      rw [services]
      exact List.mem_cons_self
    rw [mappingText?_of_mem member, services]
  have kept : ServiceMappings.ofServices [north, south] = [("Shop", branchMapping "south")] := by
    decide +kernel
  have lost : ¬ ServiceMappings.Keeps [("Shop", branchMapping "south")] [north, south] := by
    intro keeps
    obtain ⟨name, entry⟩ := keeps north List.mem_cons_self
    obtain ⟨-, same⟩ := Prod.mk.inj (List.mem_singleton.1 entry)
    exact absurd same (by decide)
  refine ⟨options, plan options (twoShopsPrepared.selection {}), twoShopsPrepared,
    (ServiceMappings.ofServices [north, south]).render, [("Shop", branchMapping "south")],
    ran, prepare_twoShops, text, ?_, ?_, rfl, ?_⟩
  · rw [ServiceMappings.parse_render_ofServices, kept]
  · rw [services_plan, services]
  · rw [services_plan, services]
    exact lost

end Results

end ODataClient.Generation
