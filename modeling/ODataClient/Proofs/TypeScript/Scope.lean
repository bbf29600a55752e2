import ODataClient.Proofs.TypeScript.Bindings
import ODataClient.Proofs.TypeScript.Coverage

/-!
# Types in scope

The imports of a file are gathered apart from its declarations. They bring all types into scope that
the declarations mention, but for complex types of key properties: the file of a request builder
takes these as parameters and imports none of them.
-/

namespace ODataClient.TypeScript

open Unicode
open Code (Imports ImportSource)
open Service (Entity ComplexType Property)

variable {service : Service} {entity : Entity} {type : ComplexType} {file : SourceFile}
  {source : ImportSource} {name : String}

/-- Whether a file names a type where it declares things, but neither imports nor declares it. -/
def SourceFile.Lacks (file : SourceFile) (name : String) : Prop :=
  name ∈ file.typeNames ∧ name ∉ file.importedNames ∧ name ∉ file.declaredNames

instance : Decidable (file.Lacks name) := inferInstanceAs (Decidable (_ ∧ _))

/-- Whether all types of the service and of its runtime that a file names are in scope there. -/
def SourceFile.InScope (service : Service) (file : SourceFile) : Prop :=
  ∀ name ∈ service.typeNames ++ derivedNames service ++ runtimeTypes, ¬ file.Lacks name

/-- A name that a file imports or declares, or that begins like the words of the language. -/
def SourceFile.Knows (file : SourceFile) (name : String) : Prop :=
  name ∈ file.importedNames ∨ name ∈ file.declaredNames ∨ ¬ BeginsNotSmall name.toList

namespace SourceFile

theorem mem_importedNames_iff :
    name ∈ file.importedNames ↔ ∃ source, file.imports.Holds source name :=
  mem_importedNames.trans Imports.exists_mem_groups_iff

theorem knows_of_holds (held : file.imports.Holds source name) : file.Knows name :=
  .inl (mem_importedNames_iff.2 ⟨source, held⟩)

theorem knows_of_declared (declared : name ∈ file.declaredNames) : file.Knows name :=
  .inr (.inl declared)

theorem hasWords_knows : HasWords file.Knows :=
  fun _ isWord => .inr (.inr isWord)

end SourceFile

theorem beginsNotSmall_runtimeTypes : ∀ name ∈ runtimeTypes, BeginsNotSmall name.toList := by
  have capital : ∀ name ∈ runtimeTypes, (name.toList.head?.all (·.toNat < 97)) = true := by
    decide
  intro name member first isFirst
  exact .inl (of_decide_eq_true ((Option.all_eq_true _ _).1 (capital name member) first isFirst))

section Files

variable (named : IsNamed service) (spelled : IsSpelled service) (typed : IsTypedModel service)

include named

theorem inScope_of_covered (covered : ∀ statement ∈ file.body, statement.Covered file.Knows) :
    file.InScope service := by
  rintro name isType ⟨member, notImported, notDeclared⟩
  have begins : BeginsNotSmall name.toList := by
    rcases List.mem_append.1 isType with inService | isRuntime
    · rcases List.mem_append.1 inService with isTypeName | isDerived
      · exact named.typesSpelled name isTypeName
      · exact beginsNotSmall_of_shared named (.inr isDerived)
    · exact beginsNotSmall_runtimeTypes name isRuntime
  obtain ⟨statement, isStatement, inStatement⟩ := mem_allTypeNames.1 member
  rcases covered statement isStatement name inStatement with imported | declared | isWord
  · exact notImported imported
  · exact notDeclared declared
  · exact isWord begins

include spelled typed

theorem inScope_entityFile (member : entity ∈ service.entities)
    (made : entityFile service entity = .ok file) : file.InScope service := by
  have declared := declaredNames_entityFile made
  have ownClass : file.Knows entity.className :=
    SourceFile.knows_of_declared (by simp [declared])
  have ownInterface : file.Knows (interfaceOf entity.className) :=
    SourceFile.knows_of_declared (by simp [declared])
  have asks : ∀ source name, EntityFile.Asks entity source name → file.Knows name := by
    obtain ⟨body, rfl⟩ := entityFile_eq_ok made
    exact fun _ _ asks => SourceFile.knows_of_holds (EntityFile.holds_imports.2 asks)
  have parts := EntityFile.coversParts spelled typed member SourceFile.hasWords_knows asks
    ownClass ownInterface
  obtain ⟨body, statements, made⟩ := Outcome.bind_eq_ok_iff.1 made
  cases made
  refine inScope_of_covered named ?_
  simp only [List.forall_mem_cons]
  exact ⟨EntityFile.covered_classDeclaration parts, EntityFile.covered_interfaceDeclaration parts,
    covered_namespace (EntityFile.covered_namespaceBody parts statements), by simp⟩

theorem inScope_complexTypeFile (member : type ∈ service.complexTypes)
    (made : complexTypeFile type = .ok file) : file.InScope service := by
  have declared := declaredNames_complexTypeFile made
  have ownType : file.Knows type.typeName := SourceFile.knows_of_declared (by simp [declared])
  have asks : ∀ source name, ComplexTypeFile.Asks type source name → file.Knows name := by
    obtain ⟨fieldClass, build, -, rfl⟩ := complexTypeFile_eq_ok made
    exact fun _ _ asks => SourceFile.knows_of_holds (ComplexTypeFile.holds_imports.2 asks)
  have parts := ComplexTypeFile.coversParts spelled typed member SourceFile.hasWords_knows asks
    ownType
  obtain ⟨fieldClass, described, made⟩ := Outcome.bind_eq_ok_iff.1 made
  obtain ⟨build, built, made⟩ := Outcome.bind_eq_ok_iff.1 made
  cases made
  refine inScope_of_covered named ?_
  simp only [List.forall_mem_cons]
  refine ⟨ComplexTypeFile.covered_interfaceDeclaration parts,
    ComplexTypeFile.covered_fieldClass parts described, covered_namespace ?_, by simp⟩
  exact List.forall_mem_singleton.2 (ComplexTypeFile.covered_buildFunction parts built)

theorem inScope_functionImportsFile (made : functionImportsFile service = .ok file) :
    file.InScope service := by
  have declared := declaredNames_functionImportsFile made
  have asks : ∀ source name, FunctionImportsFile.Asks service source name → file.Knows name := by
    obtain ⟨declarations, -, rfl⟩ := functionImportsFile_eq_ok made
    exact fun _ _ asks => SourceFile.knows_of_holds (FunctionImportsFile.holds_imports.2 asks)
  refine inScope_of_covered named fun statement member => ?_
  rcases FunctionImportsFile.cases_of_mem_body made member with
    ⟨function, isFunction, rfl | ⟨request, asked, rfl⟩⟩ | rfl
  · exact FunctionImportsFile.covered_parametersInterface SourceFile.hasWords_knows typed
      isFunction fun source name asked => asks source name (.function isFunction asked)
  · have isTypeName : function.parametersTypeName ∈ service.typeNames := by
      rw [typeNames_eq]
      exact List.mem_append_right _ (List.mem_map_of_mem isFunction)
    have isDeclared : function.parametersTypeName ∈ file.declaredNames := by
      rw [declared]
      exact List.mem_append_left _ (List.mem_flatMap.2 ⟨function, isFunction, List.mem_cons_self⟩)
    refine FunctionImportsFile.covered_requestFunction asked (asks _ _ .requestBuilder)
      (covers_name (spelled _ isTypeName) (SourceFile.knows_of_declared isDeclared)) ?_
    exact FunctionImportsFile.covers_resultType SourceFile.hasWords_knows spelled
      (typed.results function isFunction)
      fun source name asked => asks source name (.function isFunction (.result asked))
  · exact covered_constant (by simp [FunctionImportsFile.listing])

end Files

/-- Whether a type of a key property is in scope where the methods of a request builder take it as a
parameter, although it is complex: because it has no name, or is named like the entity class or like
the request builder itself. -/
def IsKeyInScope (entity : Entity) (key : Property) : Prop :=
  key.isComplex = true → key.targetType ∈ ["", entity.className, requestBuilderClass entity]

instance {key : Property} : Decidable (IsKeyInScope entity key) :=
  inferInstanceAs (Decidable (_ → _))

theorem mem_typeNames_of_key {key : Property} (member : key ∈ entity.keys)
    (isName : name ∈ namesIn key.targetType) : name ∈ (requestBuilderFile entity).typeNames := by
  have inMethods : key.targetType ∈
      (RequestBuilderFile.classDeclaration entity).members.flatMap Member.types := by
    have isParameter : key.targetType ∈
        (RequestBuilderFile.keyParameters entity).map (·.type) := by
      rw [RequestBuilderFile.keyParameters, List.map_map]
      exact List.mem_map_of_mem member
    exact List.mem_flatMap.2 ⟨_, List.mem_cons_self, List.mem_append_left _ isParameter⟩
  refine mem_allTypeNames.2 ⟨_, List.mem_cons_self, List.mem_filter.2 ⟨?_, ?_⟩⟩
  · exact List.mem_flatMap.2 ⟨_, List.mem_append_right _ inMethods, isName⟩
  · rfl

section RequestBuilder

variable (named : IsNamed service) (spelled : IsSpelled service) (typed : IsTypedModel service)
  (member : entity ∈ service.entities)

/-- What the file of a request builder imports is its entity class, and else of the runtime. -/
theorem eq_className_of_imported (imported : name ∈ (requestBuilderFile entity).importedNames) :
    name = entity.className ∨ name ∈ runtimeTypes := by
  obtain ⟨source, held⟩ := SourceFile.mem_importedNames_iff.1 imported
  cases RequestBuilderFile.holds_imports.1 held with
  | runtime isName =>
      have isType : RequestBuilderFile.needed ⊆ runtimeTypes := by decide
      exact .inr (isType isName)
  | entityClass => exact .inl rfl
  | key _ asks =>
      obtain ⟨found⟩ := asks
      exact .inr (typeModule?_eq_some found).1

include named spelled typed member

theorem isKeyInScope_of_inScope (inScope : (requestBuilderFile entity).InScope service)
    {key : Property} (isKey : key ∈ entity.keys) : IsKeyInScope entity key := by
  intro isComplex
  have isProperty := typed.keys entity member isKey
  obtain ⟨type, isType, typeName, -⟩ :=
    (typed.entityProperties entity member key isProperty).complex isComplex
  have isTypeName : key.targetType ∈ service.typeNames := by
    rw [typeNames_eq, ← typeName]
    exact List.mem_append_left _ (typeName_mem_ownFileNames isType)
  simp only [List.mem_cons, List.not_mem_nil, or_false]
  -- Without a name the type would stand in no method, and of the others none is imported.
  by_contra outside
  obtain ⟨present, notClass, notBuilder⟩ := not_or.1 outside |>.imp_right not_or.1
  refine inScope key.targetType ?_ ⟨mem_typeNames_of_key isKey ?_, fun imported => ?_, ?_⟩
  · exact List.mem_append_left _ (List.mem_append_left _ isTypeName)
  · rw [namesIn_eq_singleton (spelled _ isTypeName) present]
    exact List.mem_cons_self
  · rcases eq_className_of_imported imported with isClass | isRuntime
    · exact notClass isClass
    · exact named.runtime isTypeName isRuntime
  · exact fun declared => notBuilder (List.mem_singleton.1 declared)

theorem inScope_requestBuilderFile (keys : ∀ key ∈ entity.keys, IsKeyInScope entity key) :
    (requestBuilderFile entity).InScope service := by
  have isOwn := className_mem_ownFileNames member
  have asks : ∀ source name, RequestBuilderFile.Asks entity source name →
      (requestBuilderFile entity).Knows name :=
    fun _ _ asks => SourceFile.knows_of_holds (RequestBuilderFile.holds_imports.2 asks)
  have className : Covers (requestBuilderFile entity).Knows entity.className :=
    covers_name (isNameText_own spelled isOwn) (asks _ _ .entityClass)
  have builder : Covers (requestBuilderFile entity).Knows (requestBuilderClass entity) :=
    covers_name (isNameText_suffixed spelled .requestBuilder isOwn)
      (SourceFile.knows_of_declared (by simp [declaredNames_requestBuilderFile]))
  have covered : ∀ key ∈ entity.keys,
      Covers (requestBuilderFile entity).Knows key.targetType := by
    intro key isKey
    cases isComplex : key.isComplex with
    | true =>
        have inScope := keys key isKey isComplex
        simp only [List.mem_cons, List.not_mem_nil, or_false] at inScope
        rcases inScope with isEmpty | isClass | isBuilder
        · rw [isEmpty]
          exact fun _ isName => (List.not_mem_nil isName).elim
        · exact isClass ▸ className
        · exact isBuilder ▸ builder
    | false =>
        have isProperty := typed.keys entity member isKey
        obtain ⟨type, isTarget, -⟩ :=
          (typed.entityProperties entity member key isProperty).primitive isComplex
        exact covers_targetType SourceFile.hasWords_knows isTarget
          fun source name asked => asks source name (.key isKey asked)
  exact inScope_of_covered named (List.forall_mem_singleton.2
    (RequestBuilderFile.covered_classDeclaration (fun name isName => asks _ name (.runtime isName))
      className covered))

end RequestBuilder

/-- The types that the files of a package mention are in scope, with the exception of complex types
of key properties in the files of request builders. -/
theorem inScope_iff {input : ServiceInput} {findings : List Diagnostic} {options : PackageOptions}
    {files : List OutputFile}
    (done : (Pipeline.standard language).model input = .ok (service, findings))
    (emitted : package service options = .ok files) :
    (∀ file ∈ files, ∀ source, file.content = .source source → source.InScope service) ↔
      ∀ entity ∈ service.entities, ∀ key ∈ entity.keys, IsKeyInScope entity key := by
  obtain ⟨schema, built⟩ := Pipeline.isBuilt_of_model done
  have named := isNamed_of_isBuilt built
  have spelled := isSpelled_of_isBuilt built
  have typed : IsTypedModel service := by
    obtain ⟨reported, made, -⟩ := built.built
    obtain ⟨last, -, types, complex, model⟩ := Model.isModelOf_of_buildFrom made
    exact isTypedModel_of_isModelOf model
  constructor
  · intro inScope entity member key isKey
    obtain ⟨file, isFile, isSource⟩ := exists_file_of_isModule emitted (.requestBuilder member)
    exact isKeyInScope_of_inScope named spelled typed member (inScope file isFile _ isSource) isKey
  · intro keys file member source isSource
    rcases cases_of_content emitted member isSource with ⟨module, isModule⟩ | ⟨names, rfl⟩
    · cases isModule with
      | entity isEntity made => exact inScope_entityFile named spelled typed isEntity made
      | requestBuilder isEntity =>
          exact inScope_requestBuilderFile named spelled typed isEntity (keys _ isEntity)
      | complexType isType made => exact inScope_complexTypeFile named spelled typed isType made
      | functionImports _ made => exact inScope_functionImportsFile named spelled typed made
    · exact fun name _ lacks => List.not_mem_nil lacks.1

theorem inScope_iff_sales : ∃ service findings files,
    (Pipeline.standard language).model sales = .ok (service, findings) ∧
      package service {} = .ok files ∧
      ∀ file ∈ files, ∀ source, file.content = .source source → source.InScope service := by
  have ordered : Model.orderedComplexTypes (Pipeline.modelInput sales salesSchema).schema =
      .ok [] :=
    Model.orderedComplexTypes_of_nil rfl
  have outline : ((Model.build language (Pipeline.modelInput sales salesSchema)).toOption.bind
      fun made => (package made.1 {}).toOption.map fun _ => decide (∀ entity ∈ made.1.entities,
        ∀ key ∈ entity.keys, IsKeyInScope entity key)) = some true := by
    simp only [Model.build, Model.buildFrom, Model.service, ordered]
    decide +kernel
  obtain ⟨service, findings, files, done, emitted, keys⟩ := exists_package
    (fun service _ => decide (∀ entity ∈ service.entities,
      ∀ key ∈ entity.keys, IsKeyInScope entity key)) parse_sales passes_sales outline
  exact ⟨service, findings, files, done, emitted,
    (inScope_iff done emitted).2 (of_decide_eq_true keys)⟩

/-- Whether a generated file lacks a complex type. -/
def OutputFile.lacksComplexType (service : Service) (file : OutputFile) : Bool :=
  match file.content with
  | .source source => service.complexTypes.any fun type => source.Lacks type.typeName
  | .text _ => false

theorem exists_lacks {files : List OutputFile}
    (found : files.any (·.lacksComplexType service) = true) :
    ∃ file ∈ files, ∃ source, file.content = .source source ∧
      ∃ type ∈ service.complexTypes, source.Lacks type.typeName := by
  obtain ⟨file, member, lacks⟩ := List.any_eq_true.1 found
  unfold OutputFile.lacksComplexType at lacks
  split at lacks
  · next source isSource =>
    obtain ⟨type, isType, lacksType⟩ := List.any_eq_true.1 lacks
    exact ⟨file, member, source, isSource, type, isType, of_decide_eq_true lacksType⟩
  · contradiction

/-- Orders whose key is the address that they are delivered to. -/
def deliveriesDocument : Source where
  name := "deliveries.edmx"
  text := "<Edmx><DataServices><Schema Namespace=\"Shop\">
    <EntityType Name=\"Order\">
      <Key><PropertyRef Name=\"ShipTo\"/></Key>
      <Property Name=\"ShipTo\" Type=\"Shop.Address\"/>
    </EntityType>
    <ComplexType Name=\"Address\">
      <Property Name=\"City\" Type=\"Edm.String\"/>
    </ComplexType>
    <EntityContainer>
      <EntitySet Name=\"Orders\" EntityType=\"Shop.Order\"/>
    </EntityContainer>
  </Schema></DataServices></Edmx>"

def deliveries : ServiceInput where
  fileName := "deliveries"
  documents := [deliveriesDocument]
  mapping := none
  swagger := none

def deliveriesSchema : Schema where
  ns := "Shop"
  namespaces := ["Shop"]
  entityTypes := [{
    ns := "Shop", name := "Order", keys := ["ShipTo"], navigation := [], label := none
    properties := [Model.plainProperty "ShipTo" "Shop.Address"] }]
  complexTypes := [
    { ns := "Shop", name := "Address", properties := [Model.plainProperty "City" "Edm.String"] }]
  entitySets := [{ name := "Orders", type := "Shop.Order", label := none }]

set_option maxRecDepth 4000 in
theorem parse_deliveries : Schema.parse deliveries.documents = .ok deliveriesSchema := by
  have text : deliveriesDocument.text.toList = _ := Schema.toList_of_eq_ofList rfl
  have documents : deliveries.documents = [deliveriesDocument] := rfl
  rw [documents, Schema.parse, List.mapM_cons, Schema.partsOf, Document.parse?,
    Xml.Document.ofText?, text]
  decide +kernel

theorem postOrder_deliveries :
    (ComplexGraph.ofSchema deliveriesSchema).postOrder = .ok ["Shop.Address"] := by
  have names : (ComplexGraph.ofSchema deliveriesSchema).names = ["Shop.Address"] := by
    decide +kernel
  have address :
      (ComplexGraph.ofSchema deliveriesSchema).dependencies "Shop.Address" = [] := by
    decide +kernel
  simp [ComplexGraph.postOrder, ComplexGraph.walk, names, address]

theorem passes_deliveries : deliveriesSchema.Passes Lint.all := by
  refine Schema.passes_all postOrder_deliveries ?_
  unfold Schema.Passes
  decide +kernel

/-- A file of a package may mention a complex type that it neither imports nor declares. -/
theorem exists_package_lacks_complexType : ∃ service findings files,
    (Pipeline.standard language).model deliveries = .ok (service, findings) ∧
      package service {} = .ok files ∧
      ∃ file ∈ files, ∃ source, file.content = .source source ∧
        ∃ type ∈ service.complexTypes, source.Lacks type.typeName := by
  have ordered : Model.orderedComplexTypes
      (Pipeline.modelInput deliveries deliveriesSchema).schema =
        .ok deliveriesSchema.complexTypes := by
    have schema : (Pipeline.modelInput deliveries deliveriesSchema).schema = deliveriesSchema := rfl
    rw [schema, Model.orderedComplexTypes, postOrder_deliveries]
    decide +kernel
  have outline :
      ((Model.build language (Pipeline.modelInput deliveries deliveriesSchema)).toOption.bind
        fun made => (package made.1 {}).toOption.map fun files =>
          files.any (·.lacksComplexType made.1)) = some true := by
    simp only [Model.build, Model.buildFrom, Model.service, ordered]
    decide +kernel
  obtain ⟨service, findings, files, done, emitted, found⟩ := exists_package
    (fun service files => files.any (·.lacksComplexType service)) parse_deliveries passes_deliveries
    outline
  exact ⟨service, findings, files, done, emitted, exists_lacks found⟩

end ODataClient.TypeScript
