import ODataClient.Proofs.Model.Counterparts
import ODataClient.Proofs.Model.Whole

/-!
# Function imports that are added

Functions are named before factories, and function imports are made last of all. So those that are
put behind the others of a schema take no name from anything but factories.
-/

namespace ODataClient

namespace Service

def ComplexType.withoutFactory (type : ComplexType) : ComplexType :=
  { type with factoryName := "" }

def Result.withoutFactory : Result → Result
  | .complex typeName _ builderFunction isMulti => .complex typeName "" builderFunction isMulti
  | result => result

def FunctionImport.withoutFactory (function : FunctionImport) : FunctionImport :=
  { function with result := function.result.withoutFactory }

/-- One service is another with more function imports behind those of the other, up to the names of
factories. -/
structure Continues (larger service : Service) : Prop where
  entities : larger.entities = service.entities
  complexTypes : larger.complexTypes.map ComplexType.withoutFactory =
    service.complexTypes.map ComplexType.withoutFactory
  functionImports : service.functionImports.map FunctionImport.withoutFactory <+:
    larger.functionImports.map FunctionImport.withoutFactory

end Service

namespace Leeway

theorem property_factories : factories.property = id :=
  rfl

theorem entity_factories : factories.entity = id := by
  funext made
  simp [entity, property_factories, description]

theorem complexType_factories : factories.complexType = Service.ComplexType.withoutFactory := by
  funext made
  simp [complexType, property_factories, description, factory, Service.ComplexType.withoutFactory]

theorem functionImport_factories :
    factories.functionImport = Service.FunctionImport.withoutFactory := by
  funext ⟨_, _, _, _, _, _, result⟩
  cases result <;> rfl

end Leeway

/-- The input with more function imports behind those of its schema. -/
def ModelInput.appending (input : ModelInput) (added : List Schema.FunctionImport) : ModelInput :=
  { input with
    schema := { input.schema with functionImports := input.schema.functionImports ++ added } }

namespace Model

open Build

variable {language : TargetLanguage} {input : ModelInput} {added : List Schema.FunctionImport}
  {registry : Name.Registry} {service larger : Service} {findings others : List Diagnostic}
  {start stop : BuildState}

theorem counterparts_appending : Counterparts .factories input (input.appending added) :=
  ⟨⟨_, rfl⟩, fun _ => rfl⟩

/-- Naming functions does not show outside the space of functions and factories. -/
theorem agreesOutside_functionNames {functions : List Schema.FunctionImport} {names : List String}
    (ran : (functions.mapM fun function => Build.name (.function function.name)).run start =
      .ok (names, stop)) : start.AgreesOutside .callables stop := by
  induction functions generalizing start names with
  | nil =>
      obtain ⟨-, rfl⟩ := run_mapM_nil_eq_ok.1 ran
      exact .refl start
  | cons function functions ih =>
      obtain ⟨given, middle, rest, ranName, ranRest, -⟩ := run_mapM_cons_eq_ok.1 ran
      obtain ⟨later, resolved, rfl⟩ := run_name_eq_ok.1 ranName
      have named := (Name.Registry.agreesOutside_of_resolve rfl resolved).symm
      have agree := ih ranRest
      exact ⟨named.trans agree.registry, agree.findings⟩

theorem run_mapM_append {α β : Type} {step : α → Build β} {items more : List α} {results : List β}
    (ran : ((items ++ more).mapM step).run start = .ok (results, stop)) :
    ∃ before middle after, (items.mapM step).run start = .ok (before, middle) ∧
      (more.mapM step).run middle = .ok (after, stop) ∧ results = before ++ after := by
  rw [List.mapM_append] at ran
  obtain ⟨before, middle, ranItems, ran⟩ := run_bind_eq_ok.1 ran
  obtain ⟨after, last, ranMore, ran⟩ := run_bind_eq_ok.1 ran
  obtain ⟨rfl, rfl⟩ := run_pure_eq_ok.1 ran
  exact ⟨before, middle, after, ranItems, ranMore, rfl⟩

/-- Where both builds succeed, they name functions, classes and types alike, and the one with more
function imports makes the others first. -/
theorem continues_of_run {last : BuildState}
    (ran : (Model.service language input).run start = .ok (service, stop))
    (ranToo : (Model.service language (input.appending added)).run start = .ok (larger, last)) :
    larger.Continues service := by
  have counterparts : Counterparts .factories input (input.appending added) :=
    counterparts_appending
  obtain ⟨types, directoryName, functionNames, classes, complex, first, second, third, fourth,
    fifth, sixth, ordered, ranDirectory, ranNames, ranClasses, ranComplex, ranComplexTypes,
    ranEntities, ranFunctions⟩ := run_service_eq_ok ran
  obtain ⟨typesToo, directoryToo, allNames, classesToo, complexToo, firstToo, secondToo, thirdToo,
    fourthToo, fifthToo, sixthToo, orderedToo, ranDirectoryToo, ranNamesToo, ranClassesToo,
    ranComplexToo, ranComplexTypesToo, ranEntitiesToo, ranFunctionsToo⟩ := run_service_eq_ok ranToo
  obtain rfl : types = typesToo := Except.ok.inj (ordered.symm.trans orderedToo)
  obtain ⟨rfl, rfl⟩ : directoryName = directoryToo ∧ first = firstToo :=
    Prod.mk.inj (Except.ok.inj (ranDirectory.symm.trans ranDirectoryToo))
  -- The functions of both schemas are named before the others, and so they get the same names.
  obtain ⟨names, middle, more, ranBefore, ranMore, rfl⟩ := run_mapM_append ranNamesToo
  obtain ⟨rfl, rfl⟩ : functionNames = names ∧ second = middle :=
    Prod.mk.inj (Except.ok.inj (ranNames.symm.trans ranBefore))
  have agree := agreesOutside_functionNames ranMore
  obtain ⟨rfl, agree⟩ := (couples_entityClasses counterparts).alike agree ranClasses ranClassesToo
  obtain ⟨alike, agree⟩ := (couples_complexNames counterparts).alike agree ranComplex ranComplexToo
  obtain ⟨sameTypes, agree⟩ := (couples_mapM fun type _ =>
    couples_complexType counterparts alike).alike agree ranComplexTypes ranComplexTypesToo
  obtain ⟨sameEntities, agree⟩ := (couples_mapM fun entry _ =>
    couples_entity counterparts alike).alike agree ranEntities ranEntitiesToo
  have together : (input.schema.functionImports ++ added).zip (functionNames ++ more) =
      input.schema.functionImports.zip functionNames ++ added.zip more :=
    List.zip_append (advances_functionNames ranNames).2.length_eq
  have ranAll : ((input.schema.functionImports.zip functionNames ++ added.zip more).mapM
      fun entry => functionImport language (input.appending added) complexToo entry.1
        entry.2).run sixthToo = .ok (larger.functionImports, last) :=
    together ▸ ranFunctionsToo
  obtain ⟨functionImports, between, others, ranOld, -, made⟩ := run_mapM_append ranAll
  obtain ⟨sameFunctions, -⟩ := (couples_mapM fun entry _ =>
    couples_functionImport counterparts alike).alike agree ranFunctions ranOld
  constructor
  · rw [Leeway.entity_factories, List.map_id, List.map_id] at sameEntities
    exact sameEntities.symm
  · rw [Leeway.complexType_factories] at sameTypes
    exact sameTypes.symm
  · rw [Leeway.functionImport_factories] at sameFunctions
    rw [made, List.map_append, sameFunctions]
    exact List.prefix_append _ _

/-- Function imports that are put behind those of a schema change nothing of what is made of it but
the names of factories. -/
theorem continues_of_buildFrom
    (built : buildFrom language input registry = .ok (service, findings))
    (extended : buildFrom language (input.appending added) registry = .ok (larger, others)) :
    larger.Continues service ∧ others = findings := by
  obtain ⟨last, -, types, complex, model⟩ := isModelOf_of_buildFrom built
  obtain ⟨lastToo, -, typesToo, complexToo, modelToo⟩ := isModelOf_of_buildFrom extended
  -- What is reported is about navigation properties, to which function imports do not matter.
  refine ⟨?_, modelToo.findings.trans model.findings.symm⟩
  unfold buildFrom at built extended
  obtain ⟨⟨made, stop⟩, ran, same⟩ := Outcome.map_eq_ok_iff.1 built
  obtain ⟨⟨madeToo, stopToo⟩, ranToo, sameToo⟩ := Outcome.map_eq_ok_iff.1 extended
  cases same
  cases sameToo
  exact continues_of_run ran ranToo

/-- A function import whose function is named like the factory of a complex type of the shop. -/
def createAddress : Schema.FunctionImport where
  name := "CreateAddress"
  returnType := some "Shop.Address"
  entitySet := none
  httpMethod := "POST"
  label := none
  parameters := []

theorem continues_shop : ∃ service larger findings others,
    buildFrom TypeScript.language shop (Name.Registry.empty "Shop" TypeScript.naming) =
        .ok (service, findings) ∧
      buildFrom TypeScript.language (shop.appending [createAddress])
          (Name.Registry.empty "Shop" TypeScript.naming) = .ok (larger, others) ∧
      service.complexTypes.map (·.factoryName) ≠ larger.complexTypes.map (·.factoryName) ∧
      larger.Continues service ∧ others = findings := by
  have ordered : orderedComplexTypes (shop.appending [createAddress]).schema = _ :=
    counterparts_appending.orderedComplexTypes.trans orderedComplexTypes_shop
  have outline : (buildFrom TypeScript.language shop
      (Name.Registry.empty "Shop" TypeScript.naming)).toOption.map
        (fun made => made.1.complexTypes.map (·.factoryName)) =
          some ["createPlace", "createAddress"] := by
    simp only [buildFrom, Model.service, orderedComplexTypes_shop]
    decide +kernel
  have outlineToo : (buildFrom TypeScript.language (shop.appending [createAddress])
      (Name.Registry.empty "Shop" TypeScript.naming)).toOption.map
        (fun made => made.1.complexTypes.map (·.factoryName)) =
          some ["createPlace", "createAddress_1"] := by
    simp only [buildFrom, Model.service, ordered]
    decide +kernel
  obtain ⟨⟨service, findings⟩, built, factories⟩ := Outcome.exists_of_toOption outline
  obtain ⟨⟨larger, others⟩, extended, factoriesToo⟩ := Outcome.exists_of_toOption outlineToo
  refine ⟨service, larger, findings, others, built, extended, ?_,
    continues_of_buildFrom built extended⟩
  rw [factories, factoriesToo]
  decide

end Model

end ODataClient
