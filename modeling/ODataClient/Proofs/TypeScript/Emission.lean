import ODataClient.Proofs.Model.Integrity
import ODataClient.Proofs.Outcome
import ODataClient.TypeScript.Package

/-!
# Packages can be made

Writing a package down fails for one reason alone: a property or parameter of a primitive that is
not known. Models that have been made without an error have none, in whatever language they are
typed, and so a package can be made of each.
-/

namespace ODataClient

theorem EdmType.ofName_name (type : EdmType) : EdmType.ofName type.name = .ok type := by
  cases type <;> decide

namespace TypeScript

open Outcome
open Service (Entity ComplexType Property)

variable {service : Service} {entity : Entity} {type : ComplexType} {property : Property}
  {parameter : Service.Parameter} {options : PackageOptions}

/-- A model all of whose primitives are known. -/
structure HasKnownPrimitives (service : Service) : Prop where
  entityProperties : ∀ entity ∈ service.entities, ∀ property ∈ entity.properties,
    property.isComplex = false → Outcome.Succeeds (EdmType.ofName property.edmType)
  complexProperties : ∀ type ∈ service.complexTypes, ∀ property ∈ type.properties,
    property.isComplex = false → Outcome.Succeeds (EdmType.ofName property.edmType)
  parameters : ∀ function ∈ service.functionImports, ∀ parameter ∈ function.parameters,
    Outcome.Succeeds (EdmType.ofName parameter.edmType)

/-- No emitter comes upon a primitive that is not known. -/
structure NoEmitterFails (service : Service) : Prop where
  descriptors : ∀ entity ∈ service.entities, ∀ property ∈ entity.properties,
    Succeeds (EntityFile.propertyDescriptor entity property)
  fields : ∀ type ∈ service.complexTypes, ∀ property ∈ type.properties,
    Succeeds (ComplexTypeFile.descriptor type property)
  conversions : ∀ type ∈ service.complexTypes, ∀ property ∈ type.properties,
    Succeeds (ComplexTypeFile.buildEntry property)
  parameters : ∀ function ∈ service.functionImports, ∀ parameter ∈ function.parameters,
    Succeeds (FunctionImportsFile.parameterEntry parameter)

/-! What each emitter looks up. -/

theorem succeeds_propertyDescriptor_iff :
    Succeeds (EntityFile.propertyDescriptor entity property) ↔
      (property.isComplex = false → Succeeds (EdmType.ofName property.edmType)) := by
  simp only [EntityFile.propertyDescriptor, pure_bind, succeeds_ite_pure_iff,
    succeeds_bind_pure_iff]

theorem succeeds_descriptor_iff :
    Succeeds (ComplexTypeFile.descriptor type property) ↔
      (property.isComplex = false → Succeeds (EdmType.ofName property.edmType)) := by
  simp only [ComplexTypeFile.descriptor, pure_bind, succeeds_ite_pure_iff, succeeds_bind_pure_iff]

theorem succeeds_buildEntry_iff :
    Succeeds (ComplexTypeFile.buildEntry property) ↔
      (property.isComplex = false → Succeeds (EdmType.ofName property.edmType)) := by
  simp only [ComplexTypeFile.buildEntry, pure_bind, succeeds_ite_pure_iff, succeeds_bind_pure_iff,
    succeeds_map_iff]

theorem succeeds_parameterEntry_iff :
    Succeeds (FunctionImportsFile.parameterEntry parameter) ↔
      Succeeds (EdmType.ofName parameter.edmType) := by
  unfold FunctionImportsFile.parameterEntry
  rw [succeeds_bind_pure_iff]

theorem noEmitterFails_iff : NoEmitterFails service ↔ HasKnownPrimitives service := by
  constructor
  · intro emits
    constructor
    · simpa only [succeeds_propertyDescriptor_iff] using emits.descriptors
    · simpa only [succeeds_descriptor_iff] using emits.fields
    · simpa only [succeeds_parameterEntry_iff] using emits.parameters
  · intro known
    constructor
    · simpa only [succeeds_propertyDescriptor_iff] using known.entityProperties
    · simpa only [succeeds_descriptor_iff] using known.complexProperties
    · simpa only [succeeds_buildEntry_iff] using known.complexProperties
    · simpa only [succeeds_parameterEntry_iff] using known.parameters

theorem succeeds_entityFile_iff :
    Succeeds (entityFile service entity) ↔ ∀ property ∈ entity.properties,
      Succeeds (EntityFile.propertyDescriptor entity property) := by
  unfold entityFile EntityFile.namespaceBody
  rw [succeeds_bind_pure_iff, succeeds_bind_pure_iff, succeeds_mapM_iff]

theorem succeeds_complexTypeFile_iff :
    Succeeds (complexTypeFile type) ↔
      (∀ property ∈ type.properties, Succeeds (ComplexTypeFile.descriptor type property)) ∧
        ∀ property ∈ type.properties, Succeeds (ComplexTypeFile.buildEntry property) := by
  unfold complexTypeFile
  rw [succeeds_bind_iff fun _ => succeeds_bind_pure_iff]
  unfold ComplexTypeFile.fieldClass ComplexTypeFile.buildFunction
  rw [succeeds_bind_pure_iff, succeeds_bind_pure_iff, succeeds_mapM_iff, succeeds_mapM_iff]

theorem succeeds_functionImportsFile_iff :
    Succeeds (functionImportsFile service) ↔
      ∀ function ∈ service.functionImports, ∀ parameter ∈ function.parameters,
        Succeeds (FunctionImportsFile.parameterEntry parameter) := by
  unfold functionImportsFile
  rw [succeeds_bind_pure_iff, succeeds_mapM_iff]
  refine forall₂_congr fun function _ => ?_
  unfold FunctionImportsFile.declarations FunctionImportsFile.requestFunction
  rw [succeeds_bind_pure_iff, succeeds_bind_pure_iff, succeeds_mapM_iff]

theorem succeeds_modules_iff :
    Succeeds (modules service) ↔
      (∀ entity ∈ service.entities, Succeeds (entityFile service entity)) ∧
        (∀ type ∈ service.complexTypes, Succeeds (complexTypeFile type)) ∧
          (service.functionImports.isEmpty = false → Succeeds (functionImportsFile service)) := by
  simp only [modules, pure_bind]
  rw [succeeds_bind_iff fun _ => succeeds_bind_iff fun _ => succeeds_ite_pure_iff.trans
    (imp_congr_right fun _ => succeeds_bind_pure_iff), succeeds_mapM_iff, succeeds_mapM_iff]
  simp only [succeeds_bind_pure_iff]

/-- A package can be made of a service exactly if its primitives are known. -/
theorem succeeds_package_iff :
    Succeeds (package service options) ↔ HasKnownPrimitives service := by
  simp only [package, succeeds_bind_pure_iff]
  rw [succeeds_modules_iff, ← noEmitterFails_iff]
  simp only [succeeds_entityFile_iff, succeeds_complexTypeFile_iff, succeeds_functionImportsFile_iff]
  constructor
  · rintro ⟨entities, complexTypes, functions⟩
    constructor
    · exact entities
    · exact fun type isType => (complexTypes type isType).1
    · exact fun type isType => (complexTypes type isType).2
    · -- Without function imports there is no file for them, but then nothing is looked up either.
      intro function isFunction
      have present : service.functionImports.isEmpty = false := by
        simp [List.ne_nil_of_mem isFunction]
      exact functions present function isFunction
  · intro emits
    have complexTypes := fun type isType =>
      And.intro (emits.fields type isType) (emits.conversions type isType)
    exact ⟨emits.descriptors, complexTypes, fun _ => emits.parameters⟩

section Model

variable {anyLanguage : TargetLanguage} {input : ModelInput} {types : List Schema.ComplexType}
  {complex : Dictionary Model.ComplexNames} {registry : Name.Registry} {findings : List Diagnostic}

/-- A model is only made of known primitives, in whatever language it is typed. -/
theorem hasKnownPrimitives_of_isModelOf
    (model : Model.IsModelOf anyLanguage input types complex registry service findings) :
    HasKnownPrimitives service := by
  have closed := Model.isClosed_of_isModelOf model
  have known {name : String} : (∃ type : EdmType, type.name = name) →
      Outcome.Succeeds (EdmType.ofName name) := by
    rintro ⟨type, rfl⟩
    exact ⟨type, EdmType.ofName_name type⟩
  constructor
  · exact fun entity member property isProperty isPrimitive =>
      known ((closed.entityProperties entity member property isProperty).primitive isPrimitive)
  · intro type member property isProperty isPrimitive
    obtain ⟨before, after, split⟩ := List.append_of_mem member
    exact known ((closed.complexProperties before type after split property
      isProperty).primitive isPrimitive)
  · intro function member parameter isParameter
    obtain ⟨source, -, made⟩ := model.functionImports.exists_of_mem_right member
    obtain ⟨_, -, isParameterOf⟩ := made.parameters.exists_of_mem_right isParameter
    obtain ⟨mapping, found, -⟩ := isParameterOf.targetType
    exact known (Model.exists_name_of_primitive found)

/-- No emitter fails on a model that has been made without an error, and so a package can be made of
it with any options. -/
theorem exists_package_of_buildFrom
    (built : Model.buildFrom anyLanguage input registry = .ok (service, findings)) :
    NoEmitterFails service ∧ ∀ options, ∃ files, package service options = .ok files := by
  obtain ⟨last, -, types, complex, model⟩ := Model.isModelOf_of_buildFrom built
  have known := hasKnownPrimitives_of_isModelOf model
  exact ⟨noEmitterFails_iff.2 known, fun options => succeeds_package_iff.2 known⟩

theorem exists_package_shop : ∃ service findings files,
    Model.build language Model.shop = .ok (service, findings) ∧
      service.complexTypes.map (·.properties.map (·.edmType)) =
        [["Edm.String"], ["Shop.Place"]] ∧
      NoEmitterFails service ∧
      package service { withPackageJson := true, version := some "2.1.0" } = .ok files := by
  have outline : ((Model.build language Model.shop).toOption.map fun made =>
      made.1.complexTypes.map (·.properties.map (·.edmType))) =
        some [["Edm.String"], ["Shop.Place"]] := by
    simp only [Model.build, Model.buildFrom, Model.service, Model.orderedComplexTypes_shop]
    decide +kernel
  obtain ⟨⟨service, findings⟩, built, edmTypes⟩ := Outcome.exists_of_toOption outline
  obtain ⟨emits, packages⟩ := exists_package_of_buildFrom built
  obtain ⟨files, made⟩ := packages { withPackageJson := true, version := some "2.1.0" }
  exact ⟨service, findings, files, built, edmTypes, emits, made⟩

end Model

end TypeScript

end ODataClient
