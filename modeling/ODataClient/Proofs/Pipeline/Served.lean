import ODataClient.Proofs.Model.Correspondence
import ODataClient.Proofs.Model.Integrity
import ODataClient.Proofs.Pipeline.Standard
import ODataClient.Proofs.Schema.Structure

/-!
# Entity types that are served

The entity types of an accepted schema fall into two kinds. Those that an entity set holds become
entities, each with the key that its type declares, since the lints let no type pass that is served
without a key. All others are left out, and the standard phases remark on each of them and on
nothing else.
-/

namespace ODataClient.Pipeline

variable {language : TargetLanguage} {schema : Schema} {service : Service}
  {findings : List Diagnostic} {type : Schema.EntityType}

/-- An entity with the key that its type declares. -/
structure HasKeyOf (type : Schema.EntityType) (entity : Service.Entity) : Prop where
  entityTypeName : entity.entityTypeName = type.name
  nonempty : entity.keys ≠ []
  names : ∀ name, name ∈ entity.keys.map (·.originalName) ↔ name ∈ type.keys
  flags : ∀ key ∈ entity.keys, key.isKey = true ∧ key.nullable = false

/-- Each entity set of a schema has an entity with the key that the type of the set declares. -/
def HasDeclaredKeys (schema : Schema) (service : Service) : Prop :=
  List.Forall₂ (fun set entity => ∃ type,
      schema.findEntityType? set.type = some type ∧ HasKeyOf type entity)
    schema.entitySets service.entities

/-- The remark that an entity type is left out. -/
def remarkOn (type : Schema.EntityType) : Diagnostic where
  severity := .info
  phase := "validate"
  message := s!"entity type '{type.name}' has no entity set and is not generated"
  location := some type.qualifiedName
  cause := none

/-- What is generated of the entity types of a schema, and what is said of the others. -/
structure Serves (schema : Schema) (service : Service) (findings : List Diagnostic) : Prop where
  keys : HasDeclaredKeys schema service
  remarks : (schema.entityTypes.map (·.qualifiedName)).Nodup →
    findings.filter (·.severity = .info) = (schema.entityTypes.filter fun type =>
      service.entities.all (·.entityTypeName ≠ type.name)).map remarkOn

section Lints

theorem isServed_iff :
    Lint.isServed schema type = true ↔ ∃ set ∈ schema.entitySets, set.type = type.qualifiedName := by
  simp [Lint.isServed, Schema.entitySetsOf]

/-- A type that is served without a key would be a fault. -/
theorem keys_ne_nil_of_passes (passes : schema.Passes Lint.all)
    (declared : type ∈ schema.entityTypes) (served : Lint.isServed schema type = true) :
    type.keys ≠ [] := by
  intro keyless
  have unkeyed : type ∈ schema.entityTypes.filter fun type =>
      type.keys.isEmpty && Lint.isServed schema type := by
    simp [declared, keyless, served]
  have isLint : Lint.missingKey ∈ Lint.all := by simp [Lint.all]
  have clean := passes Lint.missingKey isLint _ (List.mem_map_of_mem unkeyed)
  contradiction

theorem filter_info_eq_nil {found : List Diagnostic}
    (others : ∀ finding ∈ found, finding.severity ≠ .info) :
    found.filter (·.severity = .info) = [] := by
  simpa [List.filter_eq_nil_iff] using others

/-- Of all lints only the one about types without an entity set makes remarks. -/
theorem remarks_of_lints : (Lint.all.flatMap (·.check schema)).filter (·.severity = .info) =
    (schema.entityTypes.filter fun type => !Lint.isServed schema type).map remarkOn := by
  have cycle : (Lint.complexTypeCycle.check schema).filter (·.severity = .info) = [] := by
    simp only [Lint.complexTypeCycle]
    split <;> rfl
  have keyless : (Lint.missingKey.check schema).filter (·.severity = .info) = [] := by
    apply filter_info_eq_nil
    intro finding member
    obtain ⟨type, -, rfl⟩ := List.mem_map.1 member
    simp [Diagnostic.error, Diagnostic.locatedAt]
  have orphans : (Lint.orphanEntityReturn.check schema).filter (·.severity = .info) = [] := by
    apply filter_info_eq_nil
    intro finding member
    obtain ⟨function, -, made⟩ := List.mem_filterMap.1 member
    obtain ⟨type, -, rfl⟩ := Option.map_eq_some_iff.1 made
    simp [Diagnostic.ofModelError, Diagnostic.error, Diagnostic.locatedAt]
  have empty : (Lint.emptyService.check schema).filter (·.severity = .info) = [] := by
    simp only [Lint.emptyService]
    split <;> rfl
  have unused : (Lint.unusedEntityType.check schema).filter (·.severity = .info) =
      (schema.entityTypes.filter fun type => !Lint.isServed schema type).map remarkOn := by
    apply List.filter_eq_self.2
    intro finding member
    obtain ⟨type, -, rfl⟩ := List.mem_map.1 member
    rfl
  simp only [Lint.all, List.flatMap_cons, List.flatMap_nil, List.filter_append, cycle, keyless,
    orphans, empty, unused, List.nil_append, List.append_nil]

end Lints

section Entities

variable {input : ModelInput} {complex : Dictionary Model.ComplexNames}
  {registry : Name.Registry} {set : Schema.EntitySet} {entity : Service.Entity}

theorem hasKeyOf_of_isEntityOf
    (made : Model.IsEntityOf language input complex registry set type entity)
    (isKeyed : type.IsKeyed) (keyed : type.keys ≠ []) : HasKeyOf type entity := by
  have mirrors := Model.mirrorsEntity_of_isEntityOf made
  have properties : type.properties.map (·.name) = entity.properties.map (·.originalName) :=
    made.properties.map_eq_map fun _ _ property => property.originalName.symm
  have names (name : String) : name ∈ entity.keys.map (·.originalName) ↔ name ∈ type.keys := by
    constructor
    · intro isKeyName
      obtain ⟨key, isKey, rfl⟩ := List.mem_map.1 isKeyName
      rw [mirrors.keys] at isKey
      simpa using (List.mem_filter.1 isKey).2
    · intro declared
      have isName : name ∈ entity.properties.map (·.originalName) := properties ▸ isKeyed declared
      obtain ⟨property, isProperty, rfl⟩ := List.mem_map.1 isName
      refine List.mem_map_of_mem ?_
      rw [mirrors.keys]
      simpa [isProperty] using declared
  refine ⟨made.entityTypeName, ?_, names, ?_⟩
  · intro keyless
    obtain ⟨name, declared⟩ := List.exists_mem_of_ne_nil _ keyed
    have isKeyName := (names name).2 declared
    simp [keyless] at isKeyName
  · intro key isKey
    refine ⟨?_, mirrors.keysNotNull key isKey⟩
    rw [made.keys] at isKey
    exact (List.mem_filter.1 isKey).2

/-- The types that are served are those that entities are made of. -/
theorem isServed_iff_exists_entity (keys : HasDeclaredKeys schema service)
    (names : (schema.entityTypes.map (·.name)).Nodup)
    (distinct : (schema.entityTypes.map (·.qualifiedName)).Nodup)
    (declared : type ∈ schema.entityTypes) :
    Lint.isServed schema type = true ↔
      ∃ entity ∈ service.entities, entity.entityTypeName = type.name := by
  rw [isServed_iff]
  constructor
  · rintro ⟨set, isSet, leads⟩
    obtain ⟨entity, paired⟩ := keys.exists_mem_zip_left isSet
    obtain ⟨other, found, hasKey⟩ := List.forall₂_zip keys paired
    have self : schema.findEntityType? set.type = some type := by
      rw [leads]
      exact Model.find?_key_eq_some distinct declared
    obtain rfl := Option.some.inj (found.symm.trans self)
    exact ⟨entity, (List.of_mem_zip paired).2, hasKey.entityTypeName⟩
  · rintro ⟨entity, isEntity, named⟩
    obtain ⟨set, isSet, other, found, hasKey⟩ := keys.exists_of_mem_right isEntity
    have sameName : other.name = type.name := hasKey.entityTypeName.symm.trans named
    have isOther := List.mem_of_find?_eq_some found
    have same := List.inj_on_of_nodup_map names isOther declared sameName
    have leads : other.qualifiedName = set.type := by simpa using List.find?_some found
    exact ⟨set, isSet, by rw [← leads, same]⟩

end Entities

variable {input : ServiceInput}

theorem hasDeclaredKeys_of_isBuilt (isBuilt : IsBuilt language input schema service findings) :
    HasDeclaredKeys schema service := by
  obtain ⟨accepted, passes, reported, built, -⟩ := isBuilt
  obtain ⟨last, -, types, complex, model⟩ := Model.isModelOf_of_buildFrom built
  have wellFormed := Schema.isWellFormed_of_parse accepted
  refine List.forall₂_iff_zip.2 ⟨model.entities.length_eq, fun {set entity} paired => ?_⟩
  obtain ⟨⟨type, found, made⟩, -⟩ := List.forall₂_zip model.entities paired
  have declared : type ∈ schema.entityTypes := List.mem_of_find?_eq_some found
  have leads : type.qualifiedName = set.type := by simpa using List.find?_some found
  have served := isServed_iff.2 ⟨set, (List.of_mem_zip paired).1, leads.symm⟩
  have keyed := keys_ne_nil_of_passes passes declared served
  exact ⟨type, found, hasKeyOf_of_isEntityOf made (wellFormed.keys type declared) keyed⟩

/-- What the standard phases remark on is what they leave out. -/
theorem remarks_of_isBuilt (isBuilt : IsBuilt language input schema service findings)
    (distinct : (schema.entityTypes.map (·.qualifiedName)).Nodup) :
    findings.filter (·.severity = .info) = (schema.entityTypes.filter fun type =>
      service.entities.all (·.entityTypeName ≠ type.name)).map remarkOn := by
  have keys := hasDeclaredKeys_of_isBuilt isBuilt
  obtain ⟨accepted, -, reported, built, rfl⟩ := isBuilt
  obtain ⟨last, -, types, complex, model⟩ := Model.isModelOf_of_buildFrom built
  have quiet : reported.filter (·.severity = .info) = [] := by
    apply filter_info_eq_nil
    intro finding member
    simp [Model.severity_of_mem_findings model member]
  have names : (schema.entityTypes.map (·.name)).Nodup :=
    Schema.nodup_names_of_parse accepted .entityType
  rw [List.filter_append, quiet, List.append_nil, remarks_of_lints]
  congr 1
  apply List.filter_congr
  intro type declared
  have served := isServed_iff_exists_entity keys names distinct declared
  rw [Bool.eq_iff_iff, Bool.not_eq_true', ← Bool.not_eq_true, served]
  simp

/-- Reading, checking and building agree on which entity types are generated, and with which
keys. -/
theorem serves_of_model (done : (standard language).model input = .ok (service, findings)) :
    ∃ schema, Schema.parse input.documents = .ok schema ∧ Serves schema service findings := by
  obtain ⟨schema, isBuilt⟩ := isBuilt_of_model done
  exact ⟨schema, isBuilt.accepted, hasDeclaredKeys_of_isBuilt isBuilt, remarks_of_isBuilt isBuilt⟩

/-- The types of a warehouse. Places are not held by any set, and neither are shelves, which have no
key either. -/
def warehouseTypes : Source where
  name := "types.edmx"
  text := "<Edmx><DataServices><Schema Namespace=\"Stock\">
    <EntityType Name=\"Place\">
      <Key><PropertyRef Name=\"Id\"/></Key>
      <Property Name=\"Id\" Type=\"Edm.Int32\"/>
    </EntityType>
    <EntityType Name=\"Item\">
      <Key><PropertyRef Name=\"Row\"/><PropertyRef Name=\"Bin\"/></Key>
      <Property Name=\"Bin\" Type=\"Edm.Int32\"/>
      <Property Name=\"Text\" Type=\"Edm.String\"/>
      <Property Name=\"Row\" Type=\"Edm.Int32\"/>
    </EntityType>
    <EntityType Name=\"Shelf\"/>
  </Schema></DataServices></Edmx>"

/-- The sets of the warehouse, in a namespace of their own. Both hold items. -/
def warehouseSets : Source where
  name := "sets.edmx"
  text := "<Edmx><DataServices><Schema Namespace=\"Store\"><EntityContainer>
    <EntitySet Name=\"Items\" EntityType=\"Stock.Item\"/>
    <EntitySet Name=\"Rests\" EntityType=\"Stock.Item\"/>
  </EntityContainer></Schema></DataServices></Edmx>"

def warehouse : ServiceInput where
  fileName := "warehouse"
  documents := [warehouseTypes, warehouseSets]
  mapping := none
  swagger := none

def warehouseSchema : Schema where
  ns := "Store"
  namespaces := ["Stock", "Store"]
  entityTypes := [
    { ns := "Stock", name := "Place", keys := ["Id"], navigation := [], label := none
      properties := [Model.plainProperty "Id" "Edm.Int32"] },
    { ns := "Stock", name := "Item", keys := ["Row", "Bin"], navigation := [], label := none
      properties := [
        Model.plainProperty "Bin" "Edm.Int32", Model.plainProperty "Text" "Edm.String",
        Model.plainProperty "Row" "Edm.Int32"] },
    { ns := "Stock", name := "Shelf", keys := [], properties := [], navigation := []
      label := none }]
  entitySets := [
    { name := "Items", type := "Stock.Item", label := none },
    { name := "Rests", type := "Stock.Item", label := none }]

set_option maxRecDepth 4000 in
theorem parse_warehouse : Schema.parse warehouse.documents = .ok warehouseSchema := by
  have types : warehouseTypes.text.toList = _ := Schema.toList_of_eq_ofList rfl
  have sets : warehouseSets.text.toList = _ := Schema.toList_of_eq_ofList rfl
  have documents : warehouse.documents = [warehouseTypes, warehouseSets] := rfl
  rw [documents, Schema.parse, List.mapM_cons, List.mapM_cons, Schema.partsOf, Document.parse?,
    Xml.Document.ofText?, types, Schema.partsOf, Document.parse?, Xml.Document.ofText?, sets]
  decide +kernel

theorem passes_warehouse : warehouseSchema.Passes Lint.all := by
  refine Schema.passes_all (Model.postOrder_of_nil rfl) ?_
  unfold Schema.Passes
  decide +kernel

theorem serves_warehouse : (warehouseSchema.entityTypes.map (·.qualifiedName)).Nodup ∧
    ∃ service findings,
      (standard TypeScript.language).model warehouse = .ok (service, findings) ∧
        service.entities.map (·.keys.map (·.originalName)) = [["Bin", "Row"], ["Bin", "Row"]] ∧
        HasDeclaredKeys warehouseSchema service ∧
        (findings.filter (·.severity = .info)).map (·.location) =
          [some "Stock.Place", some "Stock.Shelf"] := by
  have distinct : (warehouseSchema.entityTypes.map (·.qualifiedName)).Nodup := by decide
  have ordered : Model.orderedComplexTypes (modelInput warehouse warehouseSchema).schema = .ok [] :=
    Model.orderedComplexTypes_of_nil rfl
  have outline : (Model.build TypeScript.language
      (modelInput warehouse warehouseSchema)).toOption.map (fun made =>
        (made.1.entities.map (·.entityTypeName),
          made.1.entities.map (·.keys.map (·.originalName)))) =
            some (["Item", "Item"], [["Bin", "Row"], ["Bin", "Row"]]) := by
    simp only [Model.build, Model.buildFrom, Model.service, ordered]
    decide +kernel
  obtain ⟨⟨service, reported⟩, built, seen⟩ := Outcome.exists_of_toOption outline
  obtain ⟨typeNames, keyNames⟩ := Prod.mk.inj seen
  have done := model_of_isBuilt ⟨parse_warehouse, passes_warehouse, reported, built, rfl⟩
  obtain ⟨schema, accepted, serves⟩ := serves_of_model done
  obtain rfl : warehouseSchema = schema := Except.ok.inj (parse_warehouse.symm.trans accepted)
  refine ⟨distinct, service, _, done, keyNames, serves.keys, ?_⟩
  have unnamed (type : Schema.EntityType) :
      service.entities.all (·.entityTypeName ≠ type.name) =
        ["Item", "Item"].all (· ≠ type.name) := by
    rw [← typeNames, List.all_map]
    rfl
  rw [serves.remarks distinct]
  simp only [unnamed]
  decide

end ODataClient.Pipeline
