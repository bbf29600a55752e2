import ODataClient.Proofs.Code.Rows
import ODataClient.Proofs.TypeScript.Bindings
import ODataClient.Proofs.TypeScript.Emission
import ODataClient.Proofs.TypeScript.Requests
import ODataClient.Proofs.TypeScript.Typing

/-!
# Names from other files

What a file imports from another file of its package is declared there for others to import. The
index exports again what all other files export.
-/

namespace ODataClient.TypeScript

open Code (Imports ImportSource ImportGroup)

variable {service : Service} {entity : Service.Entity} {type : Service.ComplexType}
  {property : Service.Property} {source : ImportSource} {module name : String}
  {files : List (String × SourceFile)} {needed : List String}

/-- A name that a file declares for other files to import. -/
def SourceFile.Offers (file : SourceFile) (name : String) : Prop :=
  ∃ statement ∈ file.body, statement.isExported = true ∧ statement.declaredName? = some name

/-- The source files among generated files, under their paths. -/
def sourceFiles (files : List OutputFile) : List (String × SourceFile) :=
  files.filterMap fun file =>
    match file.content with
    | .source source => some (file.path, source)
    | .text _ => none

/-- A file that has nothing in it but exports of everything in some modules beside it, in their
order. -/
structure SourceFile.ReExports (file : SourceFile) (names : List String) : Prop where
  imports : file.imports.groups = []
  body : file.body = []
  exports : file.exports = names.map fun name => { module := "./" ++ name, names := [] }
  text : file.text = SourceFile.header ++ "\n" ++
    String.join (names.map fun name => "export * from './" ++ name ++ "';\n")

/-- The source files of a package fit together. Whatever a file imports from a sibling is declared
by a file of the package at the path of that sibling. The last file is the index, which exports
again all that the modules before it export, in their order. -/
structure FitTogether (service : Service) (files : List (String × SourceFile)) : Prop where
  imports : ∀ place file, (place, file) ∈ files → ∀ group ∈ file.imports.groups, ∀ module,
    group.source.module = "./" ++ module →
      ∃ target, (modulePath service module, target) ∈ files ∧
        ∀ name ∈ group.names, target.Offers name
  index : ∃ names modules index, files = modules ++ [(modulePath service "index", index)] ∧
    modules.map Prod.fst = names.map (modulePath service) ∧ index.ReExports names

/-- What files may ask for: the libraries of the runtime, what has a module of its own, and the
names that are derived from that. -/
inductive IsAvailable (service : Service) : ImportSource → String → Prop
  | library {source : ImportSource} {name : String} (isLibrary : source.module ∈ libraries) :
      IsAvailable service source name
  | own {name : String} (declares : Declares service name name) :
      IsAvailable service ⟨siblingModule name, false⟩ name
  | field {type : Service.ComplexType} (member : type ∈ service.complexTypes) :
      IsAvailable service ⟨siblingModule type.typeName, false⟩ type.fieldType
  | interface {entity : Service.Entity} (member : entity ∈ service.entities) :
      IsAvailable service ⟨siblingModule entity.className, true⟩ (interfaceOf entity.className)

section Requests

theorem isAvailable_core : IsAvailable service ⟨coreModule, false⟩ name :=
  .library List.mem_cons_self

theorem isAvailable_of_values {type : String} (asks : AsksForValues type source name) :
    IsAvailable service source name := by
  obtain ⟨found⟩ := asks
  obtain ⟨-, rfl⟩ := typeModule?_eq_some found
  exact .library runtimeModule_mem_libraries

theorem isAvailable_of_property (typed : IsWellTyped service.complexTypes property)
    (asks : AsksForProperty needed property source name) : IsAvailable service source name := by
  cases asks with
  | complex isComplex isName =>
      obtain ⟨type, member, typeName, fieldType⟩ := typed.complex isComplex
      rw [← typeName, ← fieldType] at isName
      rw [← typeName]
      rcases List.mem_pair.1 isName with rfl | rfl
      · exact .own (.complexType member)
      · exact .field member
  | values _ asks => exact isAvailable_of_values asks
  | runtime => exact isAvailable_core

theorem isAvailable_of_result {result : Service.Result} (typed : IsTypedResult service result)
    (asks : FunctionImportsFile.AsksForResult result source name) :
    IsAvailable service source name := by
  cases asks with
  | transformer | conversion => exact isAvailable_core
  | values asks => exact isAvailable_of_values asks
  | entity =>
      cases typed with
      | entity member => exact .own (.entityClass member)
  | complex =>
      cases typed with
      | complex member => exact .own (.complexType member)

variable (typed : IsTypedModel service)

include typed

theorem isAvailable_of_entityFile (member : entity ∈ service.entities)
    (asks : EntityFile.Asks entity source name) : IsAvailable service source name := by
  cases asks with
  | runtime => exact isAvailable_core
  | requestBuilder => exact .own (.requestBuilder member)
  | property isProperty asks =>
      exact isAvailable_of_property (typed.entityProperties entity member _ isProperty) asks
  | navigation isNavigation asks =>
      obtain ⟨target, isTarget, leads⟩ := typed.navigation entity member _ isNavigation
      cases asks with
      | link => exact isAvailable_core
      | target => exact leads ▸ .own (.entityClass isTarget)
      | interface => exact leads ▸ .interface isTarget

omit typed in
theorem isAvailable_of_requestBuilderFile (member : entity ∈ service.entities)
    (asks : RequestBuilderFile.Asks entity source name) : IsAvailable service source name := by
  cases asks with
  | runtime => exact isAvailable_core
  | entityClass => exact .own (.entityClass member)
  | key _ asks => exact isAvailable_of_values asks

theorem isAvailable_of_complexTypeFile (member : type ∈ service.complexTypes)
    (asks : ComplexTypeFile.Asks type source name) : IsAvailable service source name := by
  cases asks with
  | runtime => exact isAvailable_core
  | property isProperty asks =>
      exact isAvailable_of_property (typed.complexProperties type member _ isProperty) asks

theorem isAvailable_of_functionImportsFile (asks : FunctionImportsFile.Asks service source name) :
    IsAvailable service source name := by
  cases asks with
  | requestBuilder => exact isAvailable_core
  | function member asks =>
      cases asks with
      | parameters => exact isAvailable_core
      | values _ asks => exact isAvailable_of_values asks
      | result asks => exact isAvailable_of_result (typed.results _ member) asks

/-- Files only ask for what there is. -/
theorem isAvailable_of_isModule {file : SourceFile} (isModule : IsModule service module file)
    (held : file.imports.Holds source name) : IsAvailable service source name := by
  cases isModule with
  | entity member made =>
      obtain ⟨body, rfl⟩ := entityFile_eq_ok made
      exact isAvailable_of_entityFile typed member (EntityFile.holds_imports.1 held)
  | requestBuilder member =>
      exact isAvailable_of_requestBuilderFile member (RequestBuilderFile.holds_imports.1 held)
  | complexType member made =>
      obtain ⟨fieldClass, build, -, rfl⟩ := complexTypeFile_eq_ok made
      exact isAvailable_of_complexTypeFile typed member (ComplexTypeFile.holds_imports.1 held)
  | functionImports _ made =>
      obtain ⟨declarations, -, rfl⟩ := functionImportsFile_eq_ok made
      exact isAvailable_of_functionImportsFile typed (FunctionImportsFile.holds_imports.1 held)

end Requests

/-- What a sibling gives as values are its own name and the class of its fields, and what it gives
as a type is the interface of its members. -/
theorem IsAvailable.cases (available : IsAvailable service source name)
    (isSibling : source.module = siblingModule module) :
    (source.typeOnly = false ∧ name = module ∧ Declares service module module) ∨
      (source.typeOnly = false ∧
        ∃ type ∈ service.complexTypes, type.typeName = module ∧ name = type.fieldType) ∨
      (source.typeOnly = true ∧
        ∃ entity ∈ service.entities, entity.className = module ∧ name = interfaceOf module) := by
  cases available with
  | library isLibrary => exact (siblingModule_notMem_libraries (isSibling ▸ isLibrary)).elim
  | own declares =>
      obtain rfl := siblingModule_injective isSibling
      exact .inl ⟨rfl, rfl, declares⟩
  | field member =>
      obtain rfl := siblingModule_injective isSibling
      exact .inr (.inl ⟨rfl, _, member, rfl, rfl⟩)
  | interface member =>
      obtain rfl := siblingModule_injective isSibling
      exact .inr (.inr ⟨rfl, _, member, rfl, rfl⟩)

/-- The names that are asked for from one sibling are declared by one file. -/
theorem AreModules.exists_declaring (areModules : AreModules service files)
    (typed : IsTypedModel service) {names : List String} (present : names ≠ [])
    (isSibling : source.module = siblingModule module)
    (available : ∀ name ∈ names, IsAvailable service source name) :
    ∃ file, IsModule service module file ∧ names ⊆ file.declaredNames := by
  have cases := fun name member => (available name member).cases isSibling
  obtain ⟨first, isName⟩ := List.exists_mem_of_ne_nil names present
  by_cases field : ∃ type ∈ service.complexTypes, type.typeName = module ∧
      source.typeOnly = false
  · -- Of two files with one path, that of the complex type declares the class of its fields too.
    obtain ⟨type, member, rfl, isValue⟩ := field
    obtain ⟨file, made⟩ := areModules.complexTypes type member
    refine ⟨file, .complexType member made, fun name isName => ?_⟩
    rw [declaredNames_complexTypeFile made]
    rcases cases name isName with ⟨-, rfl, -⟩ | ⟨-, other, isOther, sameName, rfl⟩ | ⟨isType, -⟩
    · exact List.mem_cons_self
    · rw [typed.fieldTypes other isOther, sameName, ← typed.fieldTypes type member]
      exact List.mem_cons_of_mem _ List.mem_cons_self
    · simp [isValue] at isType
  · have noField : ∀ name ∈ names, (source.typeOnly = false ∧ name = module ∧
        Declares service module module) ∨ (source.typeOnly = true ∧
          ∃ entity ∈ service.entities, entity.className = module ∧ name = interfaceOf module) := by
      intro name isName
      rcases cases name isName with own | ⟨isValue, type, member, typeName, -⟩ | isInterface
      · exact .inl own
      · exact (field ⟨type, member, typeName, isValue⟩).elim
      · exact .inr isInterface
    rcases noField first isName with ⟨isValue, -, declares⟩ | ⟨isType, entity, member, rfl, -⟩
    · obtain ⟨file, isModule, declared⟩ := areModules.declares_iff.1 declares
      refine ⟨file, isModule, fun name isName => ?_⟩
      rcases noField name isName with ⟨-, rfl, -⟩ | ⟨isType, -⟩
      · exact declared
      · simp [isValue] at isType
    · obtain ⟨file, made⟩ := areModules.entities entity member
      refine ⟨file, .entity member made, fun name isName => ?_⟩
      rw [declaredNames_entityFile made]
      rcases noField name isName with ⟨isValue, -⟩ | ⟨-, other, -, -, rfl⟩
      · simp [isType] at isValue
      · exact List.mem_cons_of_mem _ List.mem_cons_self

theorem IsModule.offers {file : SourceFile} (isModule : IsModule service module file)
    (declared : name ∈ file.declaredNames) : file.Offers name := by
  obtain ⟨statement, member, isName⟩ := List.mem_filterMap.1 declared
  exact ⟨statement, member, isModule.isExported statement member, isName⟩

theorem sourceFiles_of_package {options : PackageOptions} {emitted : List OutputFile}
    (made : package service options = .ok emitted) :
    ∃ modules, AreModules service modules ∧ sourceFiles emitted =
      (modules ++ [("index", indexFile (modules.map Prod.fst))]).map fun module =>
        (modulePath service module.1, module.2) := by
  obtain ⟨modules, areModules, others, rfl, -, areTexts⟩ := package_eq_ok made
  refine ⟨modules, areModules, ?_⟩
  have noSource : others.filterMap (fun file : OutputFile =>
      match file.content with
      | .source source => some (file.path, source)
      | .text _ => none) = [] := by
    refine List.filterMap_eq_nil_iff.2 fun file member => ?_
    obtain ⟨⟨text, isText⟩, -⟩ := areTexts file member
    rw [isText]
  rw [sourceFiles, List.filterMap_append, noSource, List.append_nil, List.filterMap_map]
  exact congrFun (List.filterMap_eq_map) _

theorem text_reExport (name : String) :
    Export.text { module := siblingModule name } = "export * from './" ++ name ++ "';" := by
  have start : "export * from '" ++ siblingModule name = "export * from './" ++ name := by
    rw [siblingModule, ← String.append_assoc]
    rfl
  exact congrArg (· ++ "';") start

theorem text_indexFile (names : List String) :
    (indexFile names).text = SourceFile.header ++ "\n" ++
      String.join (names.map fun name => "export * from './" ++ name ++ "';\n") := by
  have noImports : (indexFile names).imports.groups = [] := rfl
  have lines : (indexFile names).fragments =
      (names.map fun name => "export * from './" ++ name ++ "';").map .line := by
    rw [SourceFile.fragments, noImports]
    simp [SourceFile.bodyFragments, indexFile, text_reExport, Function.comp_def]
  have ended (name : String) : "export * from './" ++ name ++ "';" ++ "\n" =
      "export * from './" ++ name ++ "';\n" := by
    rw [String.append_assoc]
    rfl
  rw [SourceFile.text, SourceFile.render, Code.Fragment.render, lines, Code.Writer.putAll_lines]
  simp only [Code.Writer.putRows, Code.Writer.empty, Code.Writer.margin, Code.ofRows, List.map_map,
    Function.comp_def, List.replicate_zero, String.join_nil, String.empty_append, ended]

theorem reExports_indexFile (names : List String) : (indexFile names).ReExports names where
  imports := rfl
  body := rfl
  exports := rfl
  text := text_indexFile names

theorem fitTogether_of_areModules (areModules : AreModules service files)
    (typed : IsTypedModel service) :
    FitTogether service ((files ++ [("index", indexFile (files.map Prod.fst))]).map fun module =>
      (modulePath service module.1, module.2)) := by
  constructor
  · intro place file member group isGroup module isSibling
    obtain ⟨⟨own, content⟩, isFile, same⟩ := List.mem_map.1 member
    obtain ⟨-, rfl⟩ := Prod.mk.inj same
    rcases List.mem_append.1 isFile with inFiles | isIndex
    · have isModule := (areModules.mem_iff own content).1 inFiles
      have available : ∀ name ∈ group.names, IsAvailable service group.source name :=
        fun name isName => isAvailable_of_isModule typed isModule
          (Imports.holds_of_mem_groups isGroup isName)
      obtain ⟨target, isTarget, declared⟩ := areModules.exists_declaring typed
        (Imports.names_ne_nil_of_mem_groups isGroup) isSibling available
      refine ⟨target, List.mem_map.2 ⟨(module, target), ?_, rfl⟩, fun name isName =>
        isTarget.offers (declared isName)⟩
      exact List.mem_append_left _ ((areModules.mem_iff module target).2 isTarget)
    · cases List.mem_singleton.1 isIndex
      exact (List.not_mem_nil isGroup).elim
  · refine ⟨files.map Prod.fst, files.map fun module => (modulePath service module.1, module.2), _,
      ?_, ?_, reExports_indexFile _⟩
    · rw [List.map_append]
      rfl
    · rw [List.map_map, List.map_map]
      rfl

/-- A package can be made of every model that is built without an error, and its source files fit
together. -/
theorem fitTogether_of_buildFrom {input : ModelInput} {registry : Name.Registry}
    {findings : List Diagnostic} (options : PackageOptions)
    (built : Model.buildFrom language input registry = .ok (service, findings)) :
    ∃ emitted, package service options = .ok emitted ∧
      FitTogether service (sourceFiles emitted) := by
  obtain ⟨last, -, types, complex, model⟩ := Model.isModelOf_of_buildFrom built
  have typed := isTypedModel_of_isModelOf model
  obtain ⟨emitted, made⟩ := succeeds_package_iff.2 (hasKnownPrimitives_of_isModelOf model)
  obtain ⟨modules, areModules, sources⟩ := sourceFiles_of_package made
  exact ⟨emitted, made, sources ▸ fitTogether_of_areModules areModules typed⟩

/-- A shop with links between two entity sets, a complex type in another, and functions. -/
theorem fitTogether_shop : ∃ service findings emitted,
    Model.buildFrom language Model.shop (Name.Registry.empty "Shop" naming) =
        .ok (service, findings) ∧
      package service {} = .ok emitted ∧
      (sourceFiles emitted).getLast?.map (·.2.exports.map (·.module)) =
        some ["./Orders", "./Lines", "./OrdersRequestBuilder", "./LinesRequestBuilder", "./Place",
          "./Address", "./function-imports"] ∧
      FitTogether service (sourceFiles emitted) := by
  have outline : ((Model.build language Model.shop).toOption.map fun made =>
      (package made.1 {}).toOption.bind fun emitted =>
        (sourceFiles emitted).getLast?.map (·.2.exports.map (·.module))) =
      some (some ["./Orders", "./Lines", "./OrdersRequestBuilder", "./LinesRequestBuilder",
        "./Place", "./Address", "./function-imports"]) := by
    simp only [Model.build, Model.buildFrom, Model.service, Model.orderedComplexTypes_shop]
    decide +kernel
  obtain ⟨⟨service, findings⟩, built, seen⟩ := Outcome.exists_of_toOption outline
  obtain ⟨emitted, made, fit⟩ := fitTogether_of_buildFrom {} built
  rw [made] at seen
  exact ⟨service, findings, emitted, built, made, seen, fit⟩

end ODataClient.TypeScript
