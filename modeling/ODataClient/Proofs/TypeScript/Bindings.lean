import ODataClient.Proofs.TypeScript.FileImports

/-!
# Names that files bind

A file binds names by importing and by declaring them. Where the names of a service are kept apart
from each other and from those of the runtime, every file of its package binds each name once.
Otherwise a file may declare the very name that it imports.
-/

namespace ODataClient.TypeScript

open Unicode

variable {service : Service} {entity : Service.Entity} {type : Service.ComplexType}
  {file : SourceFile} {property : Service.Property} {place name : String} {imports : Code.Imports}

/-- The name of a function or constant that a statement declares. -/
def Statement.valueName? : Statement → Option String
  | constantDeclaration declaration => some declaration.name
  | functionDeclaration declaration => some declaration.name
  | classDeclaration _ | interfaceDeclaration _ | namespaceDeclaration .. | importStatement _
  | exportStatement _ | code _ => none

namespace SourceFile

def valueNames (file : SourceFile) : List String :=
  file.body.filterMap Statement.valueName?

def importedNames (file : SourceFile) : List String :=
  file.imports.groups.flatMap (·.names)

/-- Each name is imported once, and so from one module only. No imported name is declared too, and
functions and constants have different names. Classes and interfaces may share theirs with the
namespaces that belong to them. -/
structure BindsOnce (file : SourceFile) : Prop where
  imported : file.importedNames.Nodup
  declared : file.importedNames.Disjoint file.declaredNames
  values : file.valueNames.Nodup

theorem mem_importedNames : name ∈ file.importedNames ↔
    ∃ group ∈ file.imports.groups, name ∈ group.names :=
  List.mem_flatMap

end SourceFile

theorem bindsOnce_of_collects {allowed : String → String → Prop}
    (collects : file.imports.Collects allowed)
    (once : ∀ name module other, allowed module name → allowed other name → module = other)
    (undeclared : ∀ name module, allowed module name → name ∉ file.declaredNames)
    (values : file.valueNames.Nodup) : file.BindsOnce := by
  refine ⟨collects.nodup_names once, fun name imported isDeclared => ?_, values⟩
  obtain ⟨group, member, isName⟩ := SourceFile.mem_importedNames.1 imported
  exact undeclared name _ (collects.given_of_mem_groups member isName) isDeclared

/-- What the files of a service refer to is part of it, or else of the runtime. -/
structure IsLinked (service : Service) : Prop where
  entityProperties : ∀ entity ∈ service.entities, ∀ property ∈ entity.properties,
    Model.IsOfKnownType service.complexTypes property ∧ IsDescribed property
  navigation : ∀ entity ∈ service.entities, ∀ navigation ∈ entity.navigation,
    navigation.targetClass ∈ service.entities.map (·.className)
  complexProperties : ∀ before type after, service.complexTypes = before ++ type :: after →
    ∀ property ∈ type.properties, Model.IsOfKnownType before property ∧ IsDescribed property
  results : ∀ function ∈ service.functionImports, ∃ input source,
    Model.IsKnownResult input service source function.result

theorem isLinked_of_isModelOf {input : ModelInput} {types : List Schema.ComplexType}
    {complex : Dictionary Model.ComplexNames} {registry : Name.Registry}
    {findings : List Diagnostic}
    (model : Model.IsModelOf language input types complex registry service findings) :
    IsLinked service := by
  have closed := Model.isClosed_of_isModelOf model
  constructor
  · intro entity member property isProperty
    obtain ⟨set, -, ⟨source, -, made⟩, -⟩ := model.entities.exists_of_mem_right member
    obtain ⟨_, -, isPropertyOf⟩ := made.properties.exists_of_mem_right isProperty
    exact ⟨closed.entityProperties entity member property isProperty,
      isPropertyOf.exists_fieldType⟩
  · intro entity member navigation isNavigation
    obtain ⟨set, -, source, sources, -, -, leads⟩ := closed.navigation.exists_of_mem_right member
    obtain ⟨_, -, target, targetSet, targetEntity, leadsTo⟩ :=
      leads.exists_of_mem_right isNavigation
    rw [leadsTo.targetClass]
    exact List.mem_map_of_mem (List.of_mem_zip leadsTo.represents).2
  · intro before type after split property isProperty
    have member : type ∈ service.complexTypes := by simp [split]
    obtain ⟨source, -, made⟩ := model.complexTypes.exists_of_mem_right member
    obtain ⟨_, -, isPropertyOf⟩ := made.properties.exists_of_mem_right isProperty
    exact ⟨closed.complexProperties before type after split property isProperty,
      isPropertyOf.exists_fieldType⟩
  · intro function member
    obtain ⟨source, -, known⟩ := closed.results.exists_of_mem_right member
    exact ⟨input, source, known⟩

section Files

variable (named : IsNamed service) (apart : NamesApart service) (linked : IsLinked service)

include named

theorem collects_entityProperty
    (collects : imports.Collects (IsElsewhere service entity.className))
    (known : Model.IsOfKnownType service.complexTypes property) (described : IsDescribed property)
    (differ : ∀ type ∈ service.complexTypes, type.typeName ≠ entity.className) :
    (EntityFile.importProperty imports property).Collects
      (IsElsewhere service entity.className) := by
  unfold EntityFile.importProperty
  split
  · next isComplex =>
    obtain ⟨type, member, -, typeName, fieldType⟩ := known.complex isComplex
    exact collects_importComplexType named collects member typeName fieldType (differ type member)
  · next isPrimitive =>
    obtain ⟨type, isField⟩ := described (by simpa using isPrimitive)
    obtain ⟨needed, fromCore⟩ := fieldType_fromCore type
    rw [isField]
    exact (collects_valueType collects).value (isElsewhere_core needed fromCore)

theorem collects_navigation {navigation : Service.NavigationProperty}
    (collects : imports.Collects (IsElsewhere service entity.className))
    (isClass : navigation.targetClass ∈ service.entities.map (·.className)) :
    (EntityFile.importNavigation entity imports navigation).Collects
      (IsElsewhere service entity.className) := by
  have link : linkType navigation ∈ runtimeNames ∧
      runtimeModule (linkType navigation) = coreModule := by
    unfold linkType
    split <;> decide
  have linkCollected := collects.value (isElsewhere_core link.1 link.2)
  unfold EntityFile.importNavigation
  dsimp only
  split
  · exact linkCollected
  · next differ =>
    refine (linkCollected.value (isElsewhere_own (List.mem_append_left _ isClass) differ)).type ?_
    exact isElsewhere_derived named ⟨.interface, _, isClass, rfl, rfl⟩ differ

include apart linked in
theorem collects_entityImports (member : entity ∈ service.entities) :
    (EntityFile.imports entity).Collects (IsElsewhere service entity.className) := by
  have isClass : entity.className ∈ service.entities.map (·.className) :=
    List.mem_map_of_mem member
  have differ : ∀ type ∈ service.complexTypes, type.typeName ≠ entity.className := by
    intro type isType same
    have disjoint := (List.nodup_append'.1 (nodup_ownFileNames named apart)).2.2
    exact disjoint isClass (same ▸ List.mem_map_of_mem isType)
  have own : (Code.Imports.none.values coreModule
      ["AllFields", "CustomField", "Entity", "EntityBuilderType", "Selectable"]).Collects
        (IsElsewhere service entity.className) :=
    collects_core Code.Imports.collects_none (by decide)
  have builder : IsElsewhere service entity.className
      (siblingModule (requestBuilderClass entity)) (requestBuilderClass entity) :=
    isElsewhere_derived named ⟨.requestBuilder, _, isClass, rfl, rfl⟩
      (Suffix.append_text_ne .requestBuilder _)
  refine ((own.value builder).foldl ?_).foldl ?_
  · intro imports property isProperty collects
    obtain ⟨known, described⟩ := linked.entityProperties entity member property isProperty
    exact collects_entityProperty named collects known described differ
  · intro imports navigation isNavigation collects
    exact collects_navigation named collects
      (linked.navigation entity member navigation isNavigation)

omit named in
theorem collects_requestBuilderImports (member : entity ∈ service.entities) :
    (RequestBuilderFile.imports entity).Collects
      (IsElsewhere service (requestBuilderClass entity)) := by
  have builders : (Code.Imports.none.values coreModule
      ["CreateRequestBuilder", "DeleteRequestBuilder", "GetAllRequestBuilder",
        "GetByKeyRequestBuilder", "RequestBuilder", "UpdateRequestBuilder"]).Collects
          (IsElsewhere service (requestBuilderClass entity)) :=
    collects_core Code.Imports.collects_none (by decide)
  have differ : entity.className ≠ requestBuilderClass entity :=
    (Suffix.append_text_ne .requestBuilder _).symm
  refine (builders.foldl ?_).value (isElsewhere_own (className_mem_ownFileNames member) differ)
  intro imports key isKey collects
  exact collects_valueType collects

include linked in
theorem collects_complexTypeImports (member : type ∈ service.complexTypes) :
    (ComplexTypeFile.imports type).Collects (IsElsewhere service type.typeName) := by
  obtain ⟨before, after, split⟩ := List.append_of_mem member
  have differ : ∀ earlier ∈ before, earlier.typeName ≠ type.typeName := by
    intro earlier isEarlier same
    have distinct := named.complexTypes
    rw [split, List.map_append, List.nodup_append'] at distinct
    exact distinct.2.2 (List.mem_map_of_mem isEarlier) (by simp [same])
  refine (collects_core Code.Imports.collects_none (by decide)).foldl ?_
  intro imports property isProperty collects
  obtain ⟨known, described⟩ := linked.complexProperties before type after split property isProperty
  unfold ComplexTypeFile.importProperty
  split
  · next isComplex =>
    obtain ⟨earlier, isEarlier, -, typeName, fieldType⟩ := known.complex isComplex
    refine collects_importComplexType named collects ?_ typeName fieldType (differ _ isEarlier)
    exact split ▸ List.mem_append_left _ isEarlier
  · next isPrimitive =>
    obtain ⟨edmType, isField⟩ := described (by simpa using isPrimitive)
    rw [isField]
    refine collects_core (collects_valueType collects) fun name asked => ?_
    rcases List.mem_pair.1 asked with rfl | rfl
    · decide
    · exact complexPropertyFieldType_fromCore edmType

end Files

theorem valueNames_flatten {functionImports : List Service.FunctionImport}
    {declarations : List (List Statement)}
    (declared : List.Forall₂ AreDeclarations functionImports declarations) :
    declarations.flatten.filterMap Statement.valueName? = functionImports.map (·.functionName) := by
  rw [List.map_eq_flatMap]
  refine (declared.imp ?_).filterMap_flatten
  rintro functionImport _ ⟨request, name, -, rfl⟩
  rw [← name]
  rfl

theorem valueNames_functionImportsFile (made : functionImportsFile service = .ok file) :
    file.valueNames = service.functionNames ++ ["functionImports"] := by
  obtain ⟨declarations, declared, rfl⟩ := functionImportsFile_eq_ok made
  rw [SourceFile.valueNames, List.filterMap_append, valueNames_flatten declared]
  rfl

/-- The functions in the file of function imports differ from each other, and so the constant in it
is the only thing that may be named like one of them. -/
theorem nodup_valueNames_iff (named : IsNamed service)
    (made : functionImportsFile service = .ok file) :
    file.valueNames.Nodup ↔ "functionImports" ∉ service.functionNames := by
  rw [valueNames_functionImportsFile made, ← List.concat_eq_append, List.nodup_concat]
  exact and_iff_left named.functions

theorem mem_functionFileNames_of_declared (made : functionImportsFile service = .ok file)
    (declared : name ∈ file.declaredNames) : name ∈ functionFileNames service := by
  rw [declaredNames_functionImportsFile made, List.mem_append, List.mem_flatMap] at declared
  rcases declared with ⟨functionImport, member, isName⟩ | isListing
  · refine List.mem_append_left _ (List.mem_append.2 ?_)
    rcases List.mem_pair.1 isName with rfl | rfl
    · exact .inl (List.mem_map_of_mem member)
    · exact .inr (List.mem_map_of_mem member)
  · exact List.mem_append_right _ isListing

theorem transformer_mem (result : Service.Result) :
    FunctionImportsFile.transformer result ∈ conversions := by
  have each : ∀ kind ∈ ["EdmType", "Entity", "ComplexType"], ∀ isMulti : Bool,
      "transformReturnValueFor" ++ kind ++ (if isMulti then "List" else "") ∈ conversions := by
    decide
  cases result with
  | void => decide
  | primitive _ _ _ isMulti => exact each "EdmType" (by decide) isMulti
  | entity _ isMulti => exact each "Entity" (by decide) isMulti
  | complex _ _ _ isMulti => exact each "ComplexType" (by decide) isMulti

/-- A name that does not clash with what the file of function imports declares. -/
def IsUndeclared (service : Service) (module name : String) : Prop :=
  Provides service module name ∧ name ∉ functionFileNames service

section FunctionImports

variable (named : IsNamed service) (apart : NamesApart service) (runtime : RuntimeApart service)

include named runtime

theorem isUndeclared_runtimeType (needed : name ∈ runtimeTypes) :
    IsUndeclared service (runtimeModule name) name :=
  ⟨.runtime (mem_runtimeNames_of_mem_runtimeTypes needed),
    notMem_functionFileNames_of_runtime named runtime (.inl needed)⟩

theorem isUndeclared_conversion (needed : name ∈ conversions) :
    IsUndeclared service coreModule name := by
  have fromCore : ∀ name ∈ conversions, runtimeModule name = coreModule := by decide
  have isRuntime : name ∈ runtimeNames :=
    List.mem_append_right _ (List.mem_cons_of_mem _ needed)
  exact ⟨fromCore name needed ▸ .runtime isRuntime,
    notMem_functionFileNames_of_runtime named runtime (.inr needed)⟩

include apart

omit runtime in
theorem isUndeclared_own (member : name ∈ ownFileNames service) :
    IsUndeclared service (siblingModule name) name :=
  ⟨.sibling (declares_of_mem_ownFileNames member) (.inl member),
    notMem_functionFileNames named apart (.inl member)⟩

theorem collects_result {input : ModelInput} {source : Schema.FunctionImport}
    {result : Service.Result} (collects : imports.Collects (IsUndeclared service))
    (known : Model.IsKnownResult input service source result) :
    (FunctionImportsFile.importResult imports result).Collects (IsUndeclared service) := by
  have transformed := collects.value
    (isUndeclared_conversion named runtime (transformer_mem result))
  cases known with
  | void _ => exact transformed
  | primitive _ _ _ =>
      have isEdmToTs : "edmToTs" ∈ conversions := by decide
      have converted := transformed.value (isUndeclared_conversion named runtime isEdmToTs)
      exact collects_importValueType converted fun _ needed =>
        isUndeclared_runtimeType named runtime needed
  | complex _ _ member _ =>
      exact transformed.value (isUndeclared_own named apart (typeName_mem_ownFileNames member))
  | entity _ _ represents _ =>
      have member := (List.of_mem_zip represents).2
      exact transformed.value (isUndeclared_own named apart (className_mem_ownFileNames member))

theorem collects_functionImports (linked : IsLinked service) :
    (service.functionImports.foldl FunctionImportsFile.importFunction
      (Code.Imports.none.value coreModule "FunctionImportRequestBuilder")).Collects
        (IsUndeclared service) := by
  have valueType {name : String} (needed : name ∈ runtimeTypes) :
      IsUndeclared service (runtimeModule name) name :=
    isUndeclared_runtimeType named runtime needed
  have core {name : String} (needed : name ∈ runtimeTypes)
      (fromCore : runtimeModule name = coreModule) : IsUndeclared service coreModule name :=
    fromCore ▸ valueType needed
  refine (Code.Imports.collects_none.value (core (by decide) (by decide))).foldl ?_
  intro imports function member collects
  obtain ⟨input, source, known⟩ := linked.results function member
  have parameters : (if function.parameters.isEmpty then imports
      else imports.value coreModule "FunctionImportParameter").Collects (IsUndeclared service) := by
    split
    · exact collects
    · exact collects.value (core (by decide) (by decide))
  refine collects_result named apart runtime (parameters.foldl ?_) known
  intro imports parameter _ collects
  exact collects_importValueType collects fun _ needed => valueType needed

end FunctionImports

theorem bindsOnce_of_isModule (named : IsNamed service) (apart : NamesApart service)
    (runtime : RuntimeApart service) (linked : IsLinked service)
    (isModule : IsModule service place file) : file.BindsOnce := by
  have once {name module other : String} (first : Provides service module name)
      (second : Provides service other name) : module = other :=
    first.module_eq named apart runtime second
  -- The file of function imports is treated on its own below: it declares names that no other
  -- file imports, so that nothing is known of the modules they come from.
  have bindsOnce (collects : file.imports.Collects (IsElsewhere service place))
      (begins : BeginsNotSmall place.toList) (values : file.valueNames.Nodup) : file.BindsOnce := by
    refine bindsOnce_of_collects collects (fun _ _ _ first second => once first.1 second.1) ?_
      values
    intro name module elsewhere declared
    have isTypeFile : place ≠ FunctionImportsFile.fileName :=
      fun same => not_beginsNotSmall_fileName (same ▸ begins)
    exact elsewhere.not_declares named apart runtime isTypeFile (isModule.declares declared)
  cases isModule with
  | entity member made =>
      obtain ⟨body, rfl⟩ := entityFile_eq_ok made
      refine bindsOnce (collects_entityImports named apart linked member) ?_ .nil
      exact beginsNotSmall_of_mem_ownFileNames named (className_mem_ownFileNames member)
  | requestBuilder member =>
      refine bindsOnce (collects_requestBuilderImports member) ?_ .nil
      have isDerived : IsDerived service (requestBuilderClass _) (requestBuilderClass _) :=
        ⟨.requestBuilder, _, List.mem_map_of_mem member, rfl, rfl⟩
      exact (isDerived.beginsNotSmall named).1
  | complexType member made =>
      obtain ⟨fieldClass, build, -, rfl⟩ := complexTypeFile_eq_ok made
      refine bindsOnce (collects_complexTypeImports named linked member) ?_ .nil
      exact beginsNotSmall_of_mem_ownFileNames named (typeName_mem_ownFileNames member)
  | functionImports _ made =>
      have values : file.valueNames.Nodup :=
        (nodup_valueNames_iff named made).2 fun isFunction =>
          runtime.functions isFunction List.mem_cons_self
      have undeclared (name module : String) (undeclared : IsUndeclared service module name) :
          name ∉ file.declaredNames :=
        fun declared => undeclared.2 (mem_functionFileNames_of_declared made declared)
      have collects := collects_functionImports named apart runtime linked
      obtain ⟨declarations, -, rfl⟩ := functionImportsFile_eq_ok made
      exact bindsOnce_of_collects collects (fun _ _ _ first second => once first.1 second.1)
        undeclared values

/-- Every source file of a package binds each name once, if the names of the service are kept apart
from each other and from those of the runtime. -/
theorem bindsOnce_of_namesApart {input : ServiceInput} {findings : List Diagnostic}
    {options : PackageOptions} {files : List OutputFile}
    (done : (Pipeline.standard language).model input = .ok (service, findings))
    (emitted : package service options = .ok files) (apart : NamesApart service)
    (runtime : RuntimeApart service) :
    ∀ file ∈ files, ∀ source, file.content = .source source → source.BindsOnce := by
  obtain ⟨schema, built⟩ := Pipeline.isBuilt_of_model done
  have named := isNamed_of_isBuilt built
  have linked : IsLinked service := by
    obtain ⟨reported, made, -⟩ := built.built
    obtain ⟨last, -, types, complex, model⟩ := Model.isModelOf_of_buildFrom made
    exact isLinked_of_isModelOf model
  intro file member source isSource
  rcases cases_of_content emitted member isSource with ⟨module, isModule⟩ | ⟨names, rfl⟩
  · exact bindsOnce_of_isModule named apart runtime linked isModule
  · exact ⟨.nil, by simp [SourceFile.declaredNames, indexFile], .nil⟩

/-- The names that a generated file imports although it declares them. -/
def OutputFile.clashes (file : OutputFile) : List String :=
  match file.content with
  | .source source => source.importedNames.filter source.declaredNames.contains
  | .text _ => []

theorem exists_not_bindsOnce {files : List OutputFile} {clash : String}
    (present : clash ∈ files.flatMap (·.clashes)) :
    ∃ file ∈ files, ∃ source, file.content = .source source ∧ ¬ source.BindsOnce := by
  obtain ⟨file, member, isClash⟩ := List.mem_flatMap.1 present
  unfold OutputFile.clashes at isClash
  split at isClash
  · next source isSource =>
    obtain ⟨imported, declared⟩ := List.mem_filter.1 isClash
    refine ⟨file, member, source, isSource, fun bindsOnce => ?_⟩
    exact bindsOnce.declared imported (by simpa using declared)
  · simp at isClash

/-- An entity set whose request builder is named like one of the runtime. -/
def creationsDocument : Source where
  name := "creations.edmx"
  text := "<Edmx><DataServices><Schema Namespace=\"Shop\">
    <EntityType Name=\"Order\">
      <Key><PropertyRef Name=\"Number\"/></Key>
      <Property Name=\"Number\" Type=\"Edm.String\"/>
    </EntityType>
    <EntityContainer>
      <EntitySet Name=\"Create\" EntityType=\"Shop.Order\"/>
    </EntityContainer>
  </Schema></DataServices></Edmx>"

def creations : ServiceInput where
  fileName := "creations"
  documents := [creationsDocument]
  mapping := none
  swagger := none

def creationsSchema : Schema :=
  { ordersSchema with entitySets := [{ name := "Create", type := "Shop.Order", label := none }] }

set_option maxRecDepth 4000 in
theorem parse_creations : Schema.parse creations.documents = .ok creationsSchema := by
  have text : creationsDocument.text.toList = _ := Schema.toList_of_eq_ofList rfl
  have documents : creations.documents = [creationsDocument] := rfl
  rw [documents, Schema.parse, List.mapM_cons, Schema.partsOf, Document.parse?,
    Xml.Document.ofText?, text]
  decide +kernel

theorem passes_creations : creationsSchema.Passes Lint.all := by
  refine Schema.passes_all (Model.postOrder_of_nil rfl) ?_
  unfold Schema.Passes
  decide +kernel

/-- A file of a package may declare what it imports from the runtime. -/
theorem exists_package_not_bindsOnce : ∃ service findings files,
    (Pipeline.standard language).model creations = .ok (service, findings) ∧
      package service {} = .ok files ∧
      ∃ file ∈ files, ∃ source, file.content = .source source ∧ ¬ source.BindsOnce := by
  have ordered : Model.orderedComplexTypes (Pipeline.modelInput creations creationsSchema).schema =
      .ok [] :=
    Model.orderedComplexTypes_of_nil rfl
  have outline :
      ((Model.build language (Pipeline.modelInput creations creationsSchema)).toOption.bind
        fun made => (package made.1 {}).toOption.map fun files => files.flatMap (·.clashes)) =
          some ["CreateRequestBuilder"] := by
    simp only [Model.build, Model.buildFrom, Model.service, ordered]
    decide +kernel
  obtain ⟨service, findings, files, done, emitted, clashes⟩ := exists_package
    (fun _ files => files.flatMap (·.clashes)) parse_creations passes_creations outline
  have present : "CreateRequestBuilder" ∈ files.flatMap (·.clashes) :=
    clashes ▸ List.mem_singleton_self _
  exact ⟨service, findings, files, done, emitted, exists_not_bindsOnce present⟩

/-- Orders with their lines, and a function that gives back the lines of open orders. -/
def salesDocument : Source where
  name := "sales.edmx"
  text := "<Edmx><DataServices><Schema Namespace=\"Shop\">
    <EntityType Name=\"Order\">
      <Key><PropertyRef Name=\"Number\"/></Key>
      <Property Name=\"Number\" Type=\"Edm.String\"/>
      <NavigationProperty Name=\"Lines\" Relationship=\"Shop.OrderLines\"
        FromRole=\"Order\" ToRole=\"Line\"/>
    </EntityType>
    <EntityType Name=\"Line\">
      <Key><PropertyRef Name=\"Position\"/></Key>
      <Property Name=\"Position\" Type=\"Edm.Int64\"/>
    </EntityType>
    <Association Name=\"OrderLines\">
      <End Type=\"Shop.Order\" Multiplicity=\"1\" Role=\"Order\"/>
      <End Type=\"Shop.Line\" Multiplicity=\"*\" Role=\"Line\"/>
    </Association>
    <EntityContainer>
      <EntitySet Name=\"Orders\" EntityType=\"Shop.Order\"/>
      <EntitySet Name=\"Lines\" EntityType=\"Shop.Line\"/>
      <FunctionImport Name=\"Open\" ReturnType=\"Collection(Shop.Line)\" EntitySet=\"Lines\"/>
    </EntityContainer>
  </Schema></DataServices></Edmx>"

def sales : ServiceInput where
  fileName := "sales"
  documents := [salesDocument]
  mapping := none
  swagger := none

def salesSchema : Schema where
  ns := "Shop"
  namespaces := ["Shop"]
  entityTypes := [
    { ns := "Shop", name := "Order", keys := ["Number"], label := none
      properties := [Model.plainProperty "Number" "Edm.String"]
      navigation := [
        { name := "Lines", relationship := "Shop.OrderLines"
          fromRole := "Order", toRole := "Line" }] },
    { ns := "Shop", name := "Line", keys := ["Position"], label := none
      properties := [Model.plainProperty "Position" "Edm.Int64"], navigation := [] }]
  associations := [
    { ns := "Shop", name := "OrderLines"
      ends := [
        { type := "Shop.Order", multiplicity := .one, role := "Order" },
        { type := "Shop.Line", multiplicity := .many, role := "Line" }] }]
  entitySets := [
    { name := "Orders", type := "Shop.Order", label := none },
    { name := "Lines", type := "Shop.Line", label := none }]
  functionImports := [
    { name := "Open", returnType := some "Collection(Shop.Line)", entitySet := some "Lines"
      httpMethod := "GET", label := none, parameters := [] }]

set_option maxRecDepth 4000 in
theorem parse_sales : Schema.parse sales.documents = .ok salesSchema := by
  have text : salesDocument.text.toList = _ := Schema.toList_of_eq_ofList rfl
  have documents : sales.documents = [salesDocument] := rfl
  rw [documents, Schema.parse, List.mapM_cons, Schema.partsOf, Document.parse?,
    Xml.Document.ofText?, text]
  decide +kernel

theorem passes_sales : salesSchema.Passes Lint.all := by
  refine Schema.passes_all (Model.postOrder_of_nil rfl) ?_
  unfold Schema.Passes
  decide +kernel

theorem package_sales : ∃ service findings files,
    (Pipeline.standard language).model sales = .ok (service, findings) ∧
      package service {} = .ok files ∧ NamesApart service ∧ RuntimeApart service := by
  have ordered : Model.orderedComplexTypes (Pipeline.modelInput sales salesSchema).schema =
      .ok [] :=
    Model.orderedComplexTypes_of_nil rfl
  have outline : ((Model.build language (Pipeline.modelInput sales salesSchema)).toOption.bind
      fun made => (package made.1 {}).toOption.map fun _ =>
        decide (NamesApart made.1 ∧ RuntimeApart made.1)) = some true := by
    simp only [Model.build, Model.buildFrom, Model.service, ordered]
    decide +kernel
  obtain ⟨service, findings, files, done, emitted, apart⟩ := exists_package
    (fun service _ => decide (NamesApart service ∧ RuntimeApart service)) parse_sales passes_sales
    outline
  obtain ⟨names, runtime⟩ := of_decide_eq_true apart
  exact ⟨service, findings, files, done, emitted, names, runtime⟩

theorem bindsOnce_sales : ∃ service findings files,
    (Pipeline.standard language).model sales = .ok (service, findings) ∧
      package service {} = .ok files ∧ NamesApart service ∧ RuntimeApart service ∧
      ∀ file ∈ files, ∀ source, file.content = .source source → source.BindsOnce := by
  obtain ⟨service, findings, files, done, emitted, apart, runtime⟩ := package_sales
  exact ⟨service, findings, files, done, emitted, apart, runtime,
    bindsOnce_of_namesApart done emitted apart runtime⟩

end ODataClient.TypeScript
