import ODataClient.Proofs.Model.ComplexOrder
import ODataClient.Proofs.Model.Entities
import ODataClient.Proofs.Model.Functions
import ODataClient.TypeScript.Types

/-!
# What a whole model is made of

The parts of a model, each with the construct of the schema that it is made from, and everything
that is reported on the way. Whatever names the registry held before, this holds of every model that
is made without an error.
-/

namespace ODataClient.Model

open Build

variable {language : TargetLanguage} {input : ModelInput} {complex : Dictionary ComplexNames}
  {registry earlier later : Name.Registry} {start stop : BuildState}

/-- An entity with the entity set that it is made from. Its class is the name of that set. -/
structure IsEntityOfSet (language : TargetLanguage) (input : ModelInput)
    (complex : Dictionary ComplexNames) (registry : Name.Registry) (set : Schema.EntitySet)
    (made : Service.Entity) : Prop where
  type : ∃ type, input.schema.findEntityType? set.type = some type ∧
    IsEntityOf language input complex registry set type made
  className : registry.lookup (classSlot set) = some made.className

/-- A model and its findings with the schema that they are made from, the complex types in the order
in which they are made, the names chosen for these, and the names handed out in the end. -/
structure IsModelOf (language : TargetLanguage) (input : ModelInput)
    (types : List Schema.ComplexType) (complex : Dictionary ComplexNames)
    (registry : Name.Registry) (service : Service) (findings : List Diagnostic) : Prop where
  ordered : IsOrdered input.schema types
  naming : IsNaming language input.schema registry complex
  complexTypes :
    List.Forall₂ (IsComplexTypeOf language complex registry) types service.complexTypes
  entities : List.Forall₂ (IsEntityOfSet language input complex registry)
    input.schema.entitySets service.entities
  functionImports : List.Forall₂ (IsFunctionImportOf language input complex registry)
    input.schema.functionImports service.functionImports
  findings : findings = input.schema.entitySets.flatMap fun set =>
    (input.schema.findEntityType? set.type).toList.flatMap (dropFindings input)

theorem hasClasses_of_forall₂
    {classes : List (Schema.EntitySet × Schema.EntityType × String)}
    (made : List.Forall₂ (IsClassOf input.schema registry) input.schema.entitySets classes) :
    HasClasses input.schema registry := by
  intro set member
  obtain ⟨entry, paired⟩ := made.exists_mem_zip_left member
  exact ⟨entry.2.2, (List.forall₂_zip made paired).className⟩

theorem advances_entities {classes : List (Schema.EntitySet × Schema.EntityType × String)}
    {entities : List Service.Entity}
    (named : List.Forall₂ (IsClassOf input.schema start.registry) input.schema.entitySets classes)
    (ran : (classes.mapM fun (set, type, className) =>
      entity language input complex set type className).run start = .ok (entities, stop)) :
    start.Advances stop (input.schema.entitySets.flatMap fun set =>
        (input.schema.findEntityType? set.type).toList.flatMap (dropFindings input)) ∧
      List.Forall₂ (IsEntityOfSet language input complex stop.registry)
        input.schema.entitySets entities := by
  have hasClasses := hasClasses_of_forall₂ named
  obtain ⟨advances, made⟩ := advances_mapM (fun entry => dropFindings input entry.2.1)
    (fun registry (entry : Schema.EntitySet × Schema.EntityType × String)
        (made : Service.Entity) => made.className = entry.2.2 ∧
      IsEntityOf language input complex registry entry.1 entry.2.1 made)
    (fun _ _ _ _ grows made => ⟨made.1, made.2.mono grows⟩)
    (fun _ _ _ _ _ grows ran => advances_entity (hasClasses.mono grows) ran) ran
  constructor
  · have same : (input.schema.entitySets.map fun set =>
        (input.schema.findEntityType? set.type).toList.flatMap (dropFindings input)) =
          classes.map fun entry => dropFindings input entry.2.1 :=
      named.map_eq_map fun set entry isClass => by simp [isClass.type]
    rw [List.flatMap_def, same, ← List.flatMap_def]
    exact advances
  · refine (named.comp made).imp ?_
    rintro set made ⟨⟨_, type, className⟩, ⟨found, rfl, held⟩, rfl, isEntity⟩
    exact ⟨⟨type, found, isEntity⟩, advances.registry.lookup _ _ held⟩

theorem advances_functionImports {functionNames : List String}
    {functionImports : List Service.FunctionImport}
    (named : List.Forall₂ (fun function functionName =>
        start.registry.lookup (functionSlot function) = some functionName)
      input.schema.functionImports functionNames)
    (ran : ((input.schema.functionImports.zip functionNames).mapM fun (function, name) =>
      functionImport language input complex function name).run start =
        .ok (functionImports, stop)) :
    start.Advances stop [] ∧
      List.Forall₂ (IsFunctionImportOf language input complex stop.registry)
        input.schema.functionImports functionImports := by
  obtain ⟨advances, made⟩ := advances_mapM_quiet
    (fun registry (pair : Schema.FunctionImport × String) =>
      IsFunctionImportOf language input complex registry pair.1)
    (fun _ _ _ _ grows made => made.mono grows)
    (fun pair member _ _ _ grows ran => advances_functionImport
      (grows.lookup _ _ (List.forall₂_zip named member)) ran) ran
  refine ⟨advances, (named.zip_left.comp made).imp ?_⟩
  rintro source made ⟨pair, ⟨rfl, -⟩, isFunction⟩
  exact isFunction

theorem IsEntityOfSet.mono {set : Schema.EntitySet} {made : Service.Entity}
    (grows : earlier.Extends later)
    (isEntity : IsEntityOfSet language input complex earlier set made) :
    IsEntityOfSet language input complex later set made := by
  obtain ⟨⟨type, found, entity⟩, held⟩ := isEntity
  exact ⟨⟨type, found, entity.mono grows⟩, grows.lookup _ _ held⟩

/-- The steps of a build that has succeeded, in their order. -/
theorem run_service_eq_ok {service : Service}
    (ran : (Model.service language input).run start = .ok (service, stop)) :
    ∃ types directoryName functionNames classes complex first second third fourth fifth sixth,
      orderedComplexTypes input.schema = .ok types ∧
      (Build.name (.directory (Name.readable input.fileName)
        (input.mapping.map (·.directoryName)))).run start = .ok (directoryName, first) ∧
      (input.schema.functionImports.mapM fun function =>
        Build.name (.function function.name)).run first = .ok (functionNames, second) ∧
      (entityClasses input).run second = .ok (classes, third) ∧
      (complexNames language input).run third = .ok (complex, fourth) ∧
      (types.mapM (complexType language input complex)).run fourth =
        .ok (service.complexTypes, fifth) ∧
      (classes.mapM fun (set, type, className) =>
        entity language input complex set type className).run fifth =
          .ok (service.entities, sixth) ∧
      ((input.schema.functionImports.zip functionNames).mapM fun (function, name) =>
        functionImport language input complex function name).run sixth =
          .ok (service.functionImports, stop) := by
  obtain ⟨types, _, ranTypes, ran⟩ := run_bind_eq_ok.1 ran
  obtain ⟨ordered, rfl⟩ := run_lift_eq_ok.1 ranTypes
  obtain ⟨directoryName, first, ranDirectory, ran⟩ := run_bind_eq_ok.1 ran
  obtain ⟨functionNames, second, ranNames, ran⟩ := run_bind_eq_ok.1 ran
  obtain ⟨classes, third, ranClasses, ran⟩ := run_bind_eq_ok.1 ran
  obtain ⟨complex, fourth, ranComplex, ran⟩ := run_bind_eq_ok.1 ran
  obtain ⟨complexTypes, fifth, ranComplexTypes, ran⟩ := run_bind_eq_ok.1 ran
  obtain ⟨entities, sixth, ranEntities, ran⟩ := run_bind_eq_ok.1 ran
  obtain ⟨functionImports, last, ranFunctions, ran⟩ := run_bind_eq_ok.1 ran
  obtain ⟨rfl, rfl⟩ := run_pure_eq_ok.1 ran
  exact ⟨types, directoryName, functionNames, classes, complex, first, second, third, fourth, fifth,
    sixth, ordered, ranDirectory, ranNames, ranClasses, ranComplex, ranComplexTypes, ranEntities,
    ranFunctions⟩

/-- What is made of a schema without an error is made of these parts, only what is left out is
reported, and the names come from the registry that there was at first. -/
theorem isModelOf_of_run {service : Service}
    (ran : (Model.service language input).run { registry, findings := [] } = .ok (service, stop)) :
    registry.Grows stop.registry ∧ ∃ types complex,
      IsModelOf language input types complex stop.registry service stop.findings := by
  obtain ⟨types, directoryName, functionNames, classes, complex, first, second, third, fourth,
    fifth, sixth, ordered, ranDirectory, ranNames, ranClasses, ranComplex, ranComplexTypes,
    ranEntities, ranFunctions⟩ := run_service_eq_ok ran
  -- What each step makes, and which names it holds at its own end.
  obtain ⟨toFirst, -⟩ := advances_name (.inr rfl) ranDirectory
  obtain ⟨toSecond, namedFunctions⟩ := advances_functionNames ranNames
  obtain ⟨toThird, namedClasses⟩ := advances_entityClasses ranClasses
  obtain ⟨toFourth, naming⟩ := advances_complexNames ranComplex
  obtain ⟨toFifth, madeComplexTypes⟩ := advances_complexTypes ranComplexTypes
  -- Names that are used further on are still held there.
  have afterClasses := (toFifth.after_quiet toFourth).registry
  have classesHeld : List.Forall₂ (IsClassOf input.schema fifth.registry)
      input.schema.entitySets classes := by
    apply namedClasses.imp
    intro set entry isClass
    exact isClass.mono afterClasses
  obtain ⟨toSixth, madeEntities⟩ := advances_entities classesHeld ranEntities
  have afterFunctions := (toThird.registry.trans afterClasses).trans toSixth.registry
  have functionsHeld : List.Forall₂ (fun function functionName =>
      sixth.registry.lookup (functionSlot function) = some functionName)
      input.schema.functionImports functionNames := by
    apply namedFunctions.imp
    intro function functionName held
    exact afterFunctions.lookup _ _ held
  obtain ⟨toLast, madeFunctions⟩ := advances_functionImports functionsHeld ranFunctions
  have afterComplexTypes := toSixth.registry.trans toLast.registry
  have quiet := ((toFifth.after_quiet toFourth).after_quiet toThird).after_quiet
    (toSecond.after_quiet toFirst)
  have advances := (quiet.trans toSixth).trans toLast
  refine ⟨advances.grows, types, complex, ?_⟩
  constructor
  · exact isOrdered_orderedComplexTypes ordered
  · exact naming.mono (toFifth.registry.trans afterComplexTypes)
  · apply madeComplexTypes.imp
    intro source type isType
    exact isType.mono afterComplexTypes
  · apply madeEntities.imp
    intro set entity isEntity
    exact isEntity.mono toLast.registry
  · exact madeFunctions
  · simpa using advances.findings

/-- Every model that is made without an error is made of such parts. -/
theorem isModelOf_of_buildFrom {service : Service} {findings : List Diagnostic}
    (built : buildFrom language input registry = .ok (service, findings)) :
    ∃ last, registry.Grows last ∧
      ∃ types complex, IsModelOf language input types complex last service findings := by
  unfold buildFrom at built
  cases ran : (Model.service language input).run { registry, findings := [] } with
  | error error =>
      rw [ran] at built
      contradiction
  | ok outcome =>
      rw [ran] at built
      cases built
      exact ⟨outcome.2.registry, isModelOf_of_run ran⟩

/-- A property of which nothing but the type is said. -/
def plainProperty (name type : String) : Schema.Property where
  name
  type
  nullable := none
  maxLength := none
  precision := none
  scale := none
  label := none
  quickinfo := none

/-- The metadata of a shop. An order has lines, each with an item, and an address, which is made of
a place. It also has a navigation property that leads nowhere. -/
def shop : ModelInput where
  schema :=
    { ns := "Shop"
      namespaces := ["Shop"]
      entityTypes := [
        { ns := "Shop", name := "Order", keys := ["Number"], label := none
          properties := [
            plainProperty "Number" "Edm.String", plainProperty "ShipTo" "Shop.Address"]
          navigation := [
            { name := "Lines", relationship := "Shop.OrderLines"
              fromRole := "Order", toRole := "Line" },
            { name := "Lost", relationship := "Shop.Nothing"
              fromRole := "Order", toRole := "Line" }] },
        { ns := "Shop", name := "Line", keys := ["Position"], label := none
          properties := [plainProperty "Position" "Edm.Int32"], navigation := [] }]
      complexTypes := [
        { ns := "Shop", name := "Address", properties := [plainProperty "Place" "Shop.Place"] },
        { ns := "Shop", name := "Place", properties := [plainProperty "City" "Edm.String"] }]
      associations := [
        { ns := "Shop", name := "OrderLines"
          ends := [
            { type := "Shop.Order", multiplicity := .one, role := "Order" },
            { type := "Shop.Line", multiplicity := .many, role := "Line" }] }]
      entitySets := [
        { name := "Orders", type := "Shop.Order", label := none },
        { name := "Lines", type := "Shop.Line", label := none }]
      functionImports := [
        { name := "Open", returnType := some "Collection(Shop.Line)", entitySet := none
          httpMethod := "GET", label := none
          parameters := [
            { name := "Limit", type := "Edm.Int32", nullable := none, maxLength := none
              mode := none, label := none }] },
        { name := "Home", returnType := some "Shop.Address", entitySet := none
          httpMethod := "GET", label := none, parameters := [] }] }
  fileName := "Shop"
  mapping := none
  swagger := none

theorem postOrder_shop :
    (ComplexGraph.ofSchema shop.schema).postOrder = .ok ["Shop.Place", "Shop.Address"] := by
  have names : (ComplexGraph.ofSchema shop.schema).names = ["Shop.Address", "Shop.Place"] := by
    decide +kernel
  have address :
      (ComplexGraph.ofSchema shop.schema).dependencies "Shop.Address" = ["Shop.Place"] := by
    decide +kernel
  have place : (ComplexGraph.ofSchema shop.schema).dependencies "Shop.Place" = [] := by
    decide +kernel
  simp [ComplexGraph.postOrder, ComplexGraph.walk, names, address, place]

theorem orderedComplexTypes_shop : orderedComplexTypes shop.schema = .ok
    [{ ns := "Shop", name := "Place", properties := [plainProperty "City" "Edm.String"] },
      { ns := "Shop", name := "Address", properties := [plainProperty "Place" "Shop.Place"] }] := by
  simp only [orderedComplexTypes, postOrder_shop]
  decide +kernel

theorem build_shop : ∃ service findings,
    build TypeScript.language shop = .ok (service, findings) ∧
      service.entities.map (·.navigation.map (·.targetClass)) = [["Lines"], []] ∧
      findings.map (·.location) = [some "Order.Lost"] := by
  have outline : ((build TypeScript.language shop).toOption.map fun made =>
      (made.1.entities.map (·.navigation.map (·.targetClass)), made.2.map (·.location))) =
        some ([["Lines"], []], [some "Order.Lost"]) := by
    simp only [build, buildFrom, Model.service, orderedComplexTypes_shop]
    decide +kernel
  obtain ⟨⟨service, findings⟩, built, seen⟩ := Outcome.exists_of_toOption outline
  obtain ⟨navigation, locations⟩ := Prod.mk.inj seen
  exact ⟨service, findings, built, navigation, locations⟩

end ODataClient.Model
