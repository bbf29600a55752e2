import ODataClient.Proofs.Outcome
import ODataClient.TypeScript.Package

/-!
# Modules of a package

The source files of a service, each with the names that it declares. All but the index declare what
they export.
-/

namespace ODataClient.TypeScript

/-- The name that a statement declares in the file that it stands in. -/
def Statement.declaredName? : Statement → Option String
  | classDeclaration declaration => some declaration.name
  | interfaceDeclaration declaration => some declaration.name
  | constantDeclaration declaration => some declaration.name
  | functionDeclaration declaration => some declaration.name
  | namespaceDeclaration name _ _ => some name
  | importStatement _ | exportStatement _ | code _ => none

/-- Whether other files can import what a statement declares. -/
def Statement.isExported : Statement → Bool
  | classDeclaration _ => true
  | interfaceDeclaration declaration => declaration.isExported
  | constantDeclaration declaration => declaration.isExported
  | functionDeclaration declaration => declaration.isExported
  | namespaceDeclaration .. => true
  | importStatement _ | exportStatement _ | code _ => false

def SourceFile.declaredNames (file : SourceFile) : List String :=
  file.body.filterMap Statement.declaredName?

/-- The names that can be imported from a file: those it declares for others, and those that it
exports again one by one. -/
def SourceFile.exportedNames (file : SourceFile) : List String :=
  (file.body.filter Statement.isExported).filterMap Statement.declaredName? ++
    file.exports.flatMap (·.names)

def OutputFile.exportedNames (file : OutputFile) : List String :=
  match file.content with
  | .source source => source.exportedNames
  | .text _ => []

variable {service : Service} {entity : Service.Entity} {type : Service.ComplexType}
  {file : SourceFile} {files : List (String × SourceFile)} {name : String}

theorem entityFile_eq_ok (made : entityFile service entity = .ok file) :
    ∃ body, file =
      { imports := EntityFile.imports entity
        body := [
          .classDeclaration (EntityFile.classDeclaration service entity),
          .interfaceDeclaration (EntityFile.interfaceDeclaration entity),
          .namespaceDeclaration entity.className none body] } := by
  obtain ⟨body, -, made⟩ := Outcome.bind_eq_ok_iff.1 made
  cases made
  exact ⟨body, rfl⟩

/-- How the constant that describes a property is declared. -/
theorem propertyDescriptor_eq_ok {property : Service.Property} {constant : Constant}
    (made : EntityFile.propertyDescriptor entity property = .ok constant) :
    constant.name = property.staticName ∧
      constant.type = some (EntityFile.propertyDescriptorType entity property) := by
  unfold EntityFile.propertyDescriptor at made
  dsimp only at made
  split at made
  · cases made
    exact ⟨rfl, rfl⟩
  · obtain ⟨type, -, made⟩ := Outcome.bind_eq_ok_iff.1 made
    cases made
    exact ⟨rfl, rfl⟩

theorem complexTypeFile_eq_ok (made : complexTypeFile type = .ok file) :
    ∃ fieldClass build, fieldClass.name = type.fieldType ∧ file =
      { imports := ComplexTypeFile.imports type
        body := [
          .interfaceDeclaration (ComplexTypeFile.interfaceDeclaration type),
          .classDeclaration fieldClass,
          .namespaceDeclaration type.typeName none [.functionDeclaration build]] } := by
  obtain ⟨fieldClass, described, made⟩ := Outcome.bind_eq_ok_iff.1 made
  obtain ⟨build, -, made⟩ := Outcome.bind_eq_ok_iff.1 made
  obtain ⟨fields, -, described⟩ := Outcome.bind_eq_ok_iff.1 described
  cases described
  cases made
  exact ⟨_, build, rfl, rfl⟩

/-- What is declared for a function import: the interface of its parameters and a function that
other files can import. -/
def AreDeclarations (functionImport : Service.FunctionImport) (statements : List Statement) :
    Prop :=
  ∃ request : Function, request.name = functionImport.functionName ∧ request.isExported = true ∧
    statements = [
      .interfaceDeclaration (FunctionImportsFile.parametersInterface functionImport),
      .functionDeclaration request]

theorem functionImportsFile_eq_ok (made : functionImportsFile service = .ok file) :
    ∃ declarations, List.Forall₂ AreDeclarations service.functionImports declarations ∧ file =
      { imports := service.functionImports.foldl FunctionImportsFile.importFunction
          (Code.Imports.none.value coreModule "FunctionImportRequestBuilder")
        body := declarations.flatten ++
          [.constantDeclaration (FunctionImportsFile.listing service)] } := by
  obtain ⟨declarations, each, made⟩ := Outcome.bind_eq_ok_iff.1 made
  cases made
  refine ⟨declarations, ?_, rfl⟩
  apply (Outcome.mapM_eq_ok_iff.1 each).imp
  intro functionImport statements declared
  obtain ⟨request, asked, declared⟩ := Outcome.bind_eq_ok_iff.1 declared
  obtain ⟨entries, -, asked⟩ := Outcome.bind_eq_ok_iff.1 asked
  cases asked
  cases declared
  exact ⟨_, rfl, rfl, rfl⟩

/-- The source files of a service other than the index, under their names. -/
inductive IsModule (service : Service) : String → SourceFile → Prop
  | entity {entity : Service.Entity} {file : SourceFile} (member : entity ∈ service.entities)
      (made : entityFile service entity = .ok file) : IsModule service entity.className file
  | requestBuilder {entity : Service.Entity} (member : entity ∈ service.entities) :
      IsModule service (requestBuilderClass entity) (requestBuilderFile entity)
  | complexType {type : Service.ComplexType} {file : SourceFile}
      (member : type ∈ service.complexTypes) (made : complexTypeFile type = .ok file) :
      IsModule service type.typeName file
  | functionImports {file : SourceFile} (present : service.functionImports ≠ [])
      (made : functionImportsFile service = .ok file) :
      IsModule service FunctionImportsFile.fileName file

/-- The names of the modules of a service. -/
def moduleNames (service : Service) : List String :=
  service.entities.map (·.className) ++ service.entities.map requestBuilderClass ++
    service.complexTypes.map (·.typeName) ++
    if service.functionImports = [] then [] else [FunctionImportsFile.fileName]

theorem mapM_named_eq_ok {α ε : Type} {items : List α} {nameOf : α → String}
    {fileOf : α → Except ε SourceFile}
    (made : (items.mapM fun item => do return (nameOf item, ← fileOf item)) = .ok files) :
    files.map Prod.fst = items.map nameOf ∧
      (∀ item ∈ items, ∃ file, fileOf item = .ok file) ∧ ∀ name file,
        (name, file) ∈ files ↔ ∃ item ∈ items, nameOf item = name ∧ fileOf item = .ok file := by
  have matched : List.Forall₂ (fun item pair =>
      nameOf item = pair.1 ∧ fileOf item = .ok pair.2) items files := by
    apply (Outcome.mapM_eq_ok_iff.1 made).imp
    intro item pair named
    obtain ⟨file, isFile, named⟩ := Outcome.bind_eq_ok_iff.1 named
    cases named
    exact ⟨rfl, isFile⟩
  refine ⟨(matched.map_eq_map fun _ _ named => named.1).symm, ?_, fun name file => ⟨?_, ?_⟩⟩
  · intro item member
    obtain ⟨pair, paired⟩ := matched.exists_mem_zip_left member
    exact ⟨pair.2, (List.forall₂_zip matched paired).2⟩
  · intro member
    exact matched.exists_of_mem_right member
  · rintro ⟨item, member, rfl, isFile⟩
    obtain ⟨⟨other, found⟩, paired⟩ := matched.exists_mem_zip_left member
    obtain ⟨same, isFound⟩ := List.forall₂_zip matched paired
    cases isFile.symm.trans isFound
    exact same ▸ (List.of_mem_zip paired).2

/-- Files under their names that are all and only those of the parts of a service, each of which
has one. -/
structure AreModules (service : Service) (files : List (String × SourceFile)) : Prop where
  names : files.map Prod.fst = moduleNames service
  mem_iff : ∀ name file, (name, file) ∈ files ↔ IsModule service name file
  entities : ∀ entity ∈ service.entities, ∃ file, entityFile service entity = .ok file
  complexTypes : ∀ type ∈ service.complexTypes, ∃ file, complexTypeFile type = .ok file
  functionImports : service.functionImports ≠ [] → ∃ file, functionImportsFile service = .ok file

theorem areModules_of_modules (made : modules service = .ok files) : AreModules service files := by
  obtain ⟨entities, madeEntities, made⟩ := Outcome.bind_eq_ok_iff.1 made
  obtain ⟨complexTypes, madeTypes, made⟩ := Outcome.bind_eq_ok_iff.1 made
  obtain ⟨entityNames, haveFiles, inEntities⟩ := mapM_named_eq_ok madeEntities
  obtain ⟨typeNames, typesHaveFiles, inComplexTypes⟩ := mapM_named_eq_ok madeTypes
  have functions : ∃ functionImports, files = entities ++
      service.entities.map (fun entity =>
        (requestBuilderClass entity, requestBuilderFile entity)) ++
          complexTypes ++ functionImports ∧
      functionImports.map Prod.fst =
        (if service.functionImports = [] then [] else [FunctionImportsFile.fileName]) ∧
      (∀ name file, (name, file) ∈ functionImports ↔ service.functionImports ≠ [] ∧
        name = FunctionImportsFile.fileName ∧ functionImportsFile service = .ok file) ∧
      (service.functionImports ≠ [] → ∃ file, functionImportsFile service = .ok file) := by
    by_cases absent : service.functionImports = []
    · simp only [absent, List.isEmpty_nil, if_true] at made
      cases made
      exact ⟨[], rfl, by simp [absent], by simp [absent], fun present => (present absent).elim⟩
    · have present : service.functionImports.isEmpty = false := by simpa using absent
      simp only [present, Bool.false_eq_true, if_false] at made
      obtain ⟨file, isFile, made⟩ := Outcome.bind_eq_ok_iff.1 made
      cases made
      refine ⟨[(FunctionImportsFile.fileName, file)], rfl, by simp [absent], ?_,
        fun _ => ⟨file, isFile⟩⟩
      intro name other
      simp [absent, isFile, eq_comm]
  obtain ⟨functionImports, rfl, functionName, inFunctions, functionsHaveFile⟩ := functions
  refine ⟨?_, ?_, haveFiles, typesHaveFiles, functionsHaveFile⟩
  · simp only [List.map_append, entityNames, typeNames, functionName, List.map_map, moduleNames]
    rfl
  · intro name file
    simp only [List.mem_append, inEntities, inComplexTypes, inFunctions, List.mem_map,
      Prod.mk.injEq]
    constructor
    · rintro (((⟨entity, member, rfl, isFile⟩ | ⟨entity, member, rfl, rfl⟩) |
        ⟨type, member, rfl, isFile⟩) | ⟨present, rfl, isFile⟩)
      · exact .entity member isFile
      · exact .requestBuilder member
      · exact .complexType member isFile
      · exact .functionImports present isFile
    · intro isModule
      cases isModule with
      | entity member isFile => exact .inl (.inl (.inl ⟨_, member, rfl, isFile⟩))
      | requestBuilder member => exact .inl (.inl (.inr ⟨_, member, rfl, rfl⟩))
      | complexType member isFile => exact .inl (.inr ⟨_, member, rfl, isFile⟩)
      | functionImports present isFile => exact .inr ⟨present, rfl, isFile⟩

theorem declaredNames_flatten {functionImports : List Service.FunctionImport}
    {declarations : List (List Statement)}
    (declared : List.Forall₂ AreDeclarations functionImports declarations) :
    declarations.flatten.filterMap Statement.declaredName? =
      functionImports.flatMap fun functionImport =>
        [functionImport.parametersTypeName, functionImport.functionName] := by
  refine (declared.imp ?_).filterMap_flatten
  rintro functionImport _ ⟨request, name, -, rfl⟩
  rw [← name]
  rfl

/-- The names that the modules of a service declare, each with the module that declares it. -/
inductive Declares (service : Service) : String → String → Prop
  | entityClass {entity : Service.Entity} (member : entity ∈ service.entities) :
      Declares service entity.className entity.className
  | entityInterface {entity : Service.Entity} (member : entity ∈ service.entities) :
      Declares service entity.className (interfaceOf entity.className)
  | requestBuilder {entity : Service.Entity} (member : entity ∈ service.entities) :
      Declares service (requestBuilderClass entity) (requestBuilderClass entity)
  | complexType {type : Service.ComplexType} (member : type ∈ service.complexTypes) :
      Declares service type.typeName type.typeName
  | fieldClass {type : Service.ComplexType} (member : type ∈ service.complexTypes) :
      Declares service type.typeName type.fieldType
  | parameters {functionImport : Service.FunctionImport}
      (member : functionImport ∈ service.functionImports) :
      Declares service FunctionImportsFile.fileName functionImport.parametersTypeName
  | function {functionImport : Service.FunctionImport}
      (member : functionImport ∈ service.functionImports) :
      Declares service FunctionImportsFile.fileName functionImport.functionName
  | listing (present : service.functionImports ≠ []) :
      Declares service FunctionImportsFile.fileName "functionImports"

theorem declaredNames_entityFile (made : entityFile service entity = .ok file) :
    file.declaredNames = [entity.className, interfaceOf entity.className, entity.className] := by
  obtain ⟨body, rfl⟩ := entityFile_eq_ok made
  rfl

theorem declaredNames_requestBuilderFile :
    (requestBuilderFile entity).declaredNames = [requestBuilderClass entity] :=
  rfl

theorem declaredNames_complexTypeFile (made : complexTypeFile type = .ok file) :
    file.declaredNames = [type.typeName, type.fieldType, type.typeName] := by
  obtain ⟨fieldClass, build, name, rfl⟩ := complexTypeFile_eq_ok made
  rw [← name]
  rfl

theorem declaredNames_functionImportsFile (made : functionImportsFile service = .ok file) :
    file.declaredNames = (service.functionImports.flatMap fun functionImport =>
      [functionImport.parametersTypeName, functionImport.functionName]) ++ ["functionImports"] := by
  obtain ⟨declarations, declared, rfl⟩ := functionImportsFile_eq_ok made
  rw [SourceFile.declaredNames, List.filterMap_append, declaredNames_flatten declared]
  rfl

theorem IsModule.declares (isModule : IsModule service name file) {declared : String}
    (member : declared ∈ file.declaredNames) : Declares service name declared := by
  cases isModule with
  | entity isEntity made =>
      simp only [declaredNames_entityFile made, List.mem_cons, List.not_mem_nil, or_false] at member
      rcases member with rfl | rfl | rfl
      · exact .entityClass isEntity
      · exact .entityInterface isEntity
      · exact .entityClass isEntity
  | requestBuilder isEntity =>
      rw [declaredNames_requestBuilderFile, List.mem_singleton] at member
      exact member ▸ .requestBuilder isEntity
  | complexType isType made =>
      simp only [declaredNames_complexTypeFile made, List.mem_cons, List.not_mem_nil, or_false]
        at member
      rcases member with rfl | rfl | rfl
      · exact .complexType isType
      · exact .fieldClass isType
      · exact .complexType isType
  | functionImports present made =>
      rw [declaredNames_functionImportsFile made, List.mem_append, List.mem_flatMap,
        List.mem_singleton] at member
      rcases member with ⟨functionImport, isFunction, isName⟩ | rfl
      · simp only [List.mem_cons, List.not_mem_nil, or_false] at isName
        rcases isName with rfl | rfl
        · exact .parameters isFunction
        · exact .function isFunction
      · exact .listing present

/-- A name is declared by a module of the service just if the file of that module declares it. -/
theorem AreModules.declares_iff (areModules : AreModules service files)
    {module declared : String} :
    Declares service module declared ↔
      ∃ file, IsModule service module file ∧ declared ∈ file.declaredNames := by
  constructor
  · intro declares
    cases declares with
    | entityClass member =>
        obtain ⟨file, made⟩ := areModules.entities _ member
        exact ⟨file, .entity member made, by simp [declaredNames_entityFile made]⟩
    | entityInterface member =>
        obtain ⟨file, made⟩ := areModules.entities _ member
        exact ⟨file, .entity member made, by simp [declaredNames_entityFile made]⟩
    | requestBuilder member =>
        exact ⟨_, .requestBuilder member, by simp [declaredNames_requestBuilderFile]⟩
    | complexType member =>
        obtain ⟨file, made⟩ := areModules.complexTypes _ member
        exact ⟨file, .complexType member made, by simp [declaredNames_complexTypeFile made]⟩
    | fieldClass member =>
        obtain ⟨file, made⟩ := areModules.complexTypes _ member
        exact ⟨file, .complexType member made, by simp [declaredNames_complexTypeFile made]⟩
    | parameters member =>
        have present := List.ne_nil_of_mem member
        obtain ⟨file, made⟩ := areModules.functionImports present
        refine ⟨file, .functionImports present made, ?_⟩
        rw [declaredNames_functionImportsFile made]
        exact List.mem_append_left _ (List.mem_flatMap.2 ⟨_, member, by simp⟩)
    | function member =>
        have present := List.ne_nil_of_mem member
        obtain ⟨file, made⟩ := areModules.functionImports present
        refine ⟨file, .functionImports present made, ?_⟩
        rw [declaredNames_functionImportsFile made]
        exact List.mem_append_left _ (List.mem_flatMap.2 ⟨_, member, by simp⟩)
    | listing present =>
        obtain ⟨file, made⟩ := areModules.functionImports present
        exact ⟨file, .functionImports present made, by
          simp [declaredNames_functionImportsFile made]⟩
  · rintro ⟨file, isModule, isDeclared⟩
    exact isModule.declares isDeclared

/-- Other files can import everything that a module declares. -/
theorem IsModule.isExported (isModule : IsModule service name file) :
    ∀ statement ∈ file.body, statement.isExported = true := by
  cases isModule with
  | entity isEntity made =>
      obtain ⟨body, rfl⟩ := entityFile_eq_ok made
      simp [Statement.isExported, EntityFile.interfaceDeclaration]
  | requestBuilder isEntity => simp [requestBuilderFile, Statement.isExported]
  | complexType isType made =>
      obtain ⟨fieldClass, build, name, rfl⟩ := complexTypeFile_eq_ok made
      simp [Statement.isExported, ComplexTypeFile.interfaceDeclaration]
  | functionImports present made =>
      obtain ⟨declarations, declared, rfl⟩ := functionImportsFile_eq_ok made
      intro statement member
      rcases List.mem_append.1 member with inDeclarations | isListing
      · obtain ⟨statements, isGroup, isStatement⟩ := List.mem_flatten.1 inDeclarations
        obtain ⟨functionImport, -, request, -, exported, rfl⟩ :=
          declared.exists_of_mem_right isGroup
        simp only [List.mem_cons, List.not_mem_nil, or_false] at isStatement
        rcases isStatement with rfl | rfl
        · rfl
        · exact exported
      · rw [List.mem_singleton.1 isListing]
        rfl

/-- Modules export nothing that they do not declare. -/
theorem IsModule.exports (isModule : IsModule service name file) : file.exports = [] := by
  cases isModule with
  | entity isEntity made =>
      obtain ⟨body, rfl⟩ := entityFile_eq_ok made
      rfl
  | requestBuilder isEntity => rfl
  | complexType isType made =>
      obtain ⟨fieldClass, build, name, rfl⟩ := complexTypeFile_eq_ok made
      rfl
  | functionImports present made =>
      obtain ⟨declarations, declared, rfl⟩ := functionImportsFile_eq_ok made
      rfl

theorem IsModule.exportedNames (isModule : IsModule service name file) :
    file.exportedNames = file.declaredNames := by
  rw [SourceFile.exportedNames, List.filter_eq_self.2 isModule.isExported, isModule.exports,
    List.flatMap_nil, List.append_nil]
  rfl

end ODataClient.TypeScript
