import ODataClient.Proofs.Model.Distinctness
import ODataClient.Proofs.Model.Reservations
import ODataClient.Proofs.TypeScript.ModuleNames

/-!
# Members of entity classes

The class of an entity and the namespace beside it have members of their own, whatever the entity is
made of. The constants of the namespace never clash: the names of its own hold small letters, which
no constant of a property has, or are kept for the class. The method that gives back the key is not
protected like that: a property can get its name, if it is spelled in that way.
-/

namespace ODataClient

namespace TypeScript

open Unicode
open Service (Entity Property NavigationProperty)

variable {service : Service} {entity : Entity} {body : List Statement}

/-- The name of a member that the instances of a class have. -/
def Member.instanceName? : Member → Option String
  | field declaration => if declaration.isStatic then none else some declaration.name
  | method declaration => if declaration.isStatic then none else some declaration.name

/-- The names of the members that the instances of a class have. -/
def Class.instanceNames (declaration : Class) : List String :=
  declaration.members.filterMap Member.instanceName?

/-- The names that a namespace declares. -/
def Statement.constantNames (body : List Statement) : List String :=
  body.filterMap Statement.declaredName?

/-- The constants that the namespace of every entity has. -/
def ownConstants : List String := ["_allFields", "ALL_FIELDS", "_keyFields", "_keys"]

theorem instanceName?_navigationField {navigation : NavigationProperty} :
    (Member.field (EntityFile.navigationField navigation)).instanceName? =
      some navigation.instanceName := by
  unfold EntityFile.navigationField
  cases navigation.cardinality <;> rfl

theorem instanceNames_classDeclaration :
    (EntityFile.classDeclaration service entity).instanceNames =
      entity.members.map (·.2.instanceName) ++ ["getKeys"] := by
  have technical : ((EntityFile.technicalFields service entity).map Member.field).filterMap
      Member.instanceName? = [] := rfl
  have properties : ((entity.properties.map EntityFile.propertyField).map Member.field).filterMap
      Member.instanceName? = entity.properties.map (·.instanceName) := by
    rw [List.map_map, List.filterMap_map, ← List.filterMap_eq_map]
    rfl
  have navigation : ((entity.navigation.map EntityFile.navigationField).map Member.field).filterMap
      Member.instanceName? = entity.navigation.map (·.instanceName) := by
    rw [List.map_map, List.filterMap_map, ← List.filterMap_eq_map]
    exact List.filterMap_congr fun _ _ => instanceName?_navigationField
  have methods : ((EntityFile.methods entity).map Member.method).filterMap
      Member.instanceName? = ["getKeys"] := rfl
  rw [Class.instanceNames, EntityFile.classDeclaration, Entity.map_members]
  simp only [List.map_append, List.filterMap_append, technical, properties, navigation, methods,
    List.nil_append]
  rfl

theorem constantNames_namespaceBody (made : EntityFile.namespaceBody entity = .ok body) :
    Statement.constantNames body = entity.members.map (·.2.staticName) ++ ownConstants := by
  obtain ⟨descriptors, described, made⟩ := Outcome.bind_eq_ok_iff.1 made
  cases made
  have names : entity.properties.map (·.staticName) = descriptors.map (·.name) :=
    (Outcome.mapM_eq_ok_iff.1 described).map_eq_map fun _ _ made =>
      (propertyDescriptor_eq_ok made).1.symm
  have constants (declared : List Constant) :
      Statement.constantNames (declared.map .constantDeclaration) = declared.map (·.name) := by
    rw [Statement.constantNames, List.filterMap_map, ← List.filterMap_eq_map]
    rfl
  rw [constants, List.map_append, List.map_append, ← names, List.map_map, Entity.map_members]
  rfl

/-- The package of a service has a file with the class, the interface and the namespace of each
entity. -/
theorem exists_entityFile {options : PackageOptions} {files : List OutputFile}
    (emitted : package service options = .ok files) (isEntity : entity ∈ service.entities) :
    ∃ file ∈ files, ∃ source body, file.content = .source source ∧
      EntityFile.namespaceBody entity = .ok body ∧ source.body = [
        .classDeclaration (EntityFile.classDeclaration service entity),
        .interfaceDeclaration (EntityFile.interfaceDeclaration entity),
        .namespaceDeclaration entity.className none body] := by
  obtain ⟨modules, areModules, -⟩ := package_eq_ok emitted
  obtain ⟨source, made⟩ := areModules.entities entity isEntity
  obtain ⟨file, isFile, content⟩ := exists_file_of_isModule emitted (.entity isEntity made)
  obtain ⟨body, isBody, made⟩ := Outcome.bind_eq_ok_iff.1 made
  cases made
  exact ⟨file, isFile, _, body, content, isBody, rfl⟩

/-- The class of an entity has a field for each member of the entity and the method for the key, and
the namespace beside it a constant for each and its own. In neither of them is a name declared twice,
but for the name of the method, which a field has if its property is spelled like that. -/
structure HasMembersApart (entity : Entity) (declaration : Class) (body : List Statement) :
    Prop where
  fields : declaration.instanceNames = entity.members.map (·.2.instanceName) ++ ["getKeys"]
  instances : declaration.instanceNames.Nodup ↔
    ∀ member ∈ entity.members, member.2.instanceName ≠ "getKeys"
  spelled : ∀ member ∈ entity.members, member.2.instanceName = "getKeys" →
    Text.camelCase member.1 = "getKeys"
  described : Statement.constantNames body = entity.members.map (·.2.staticName) ++ ownConstants
  constants : (Statement.constantNames body).Nodup

theorem camelCase_of_identifier {source : String}
    (given : "getKeys" ∈ Name.variants (naming.identifier source .instanceMember)) :
    Text.camelCase source = "getKeys" := by
  -- Numbers and escapes bring an underscore with them.
  have plain : '_' ∉ "getKeys".toList := by decide
  have same : naming.identifier source .instanceMember = "getKeys" := by
    rcases eq_or_numbered_of_mem_variants given with same | ⟨ordinal, -, numbered⟩
    · exact same.symm
    · exact (plain (by simp [numbered])).elim
  rcases toList_identifier source .instanceMember fun _ => rfl with recased | escaped
  · exact (String.toList_injective recased).symm.trans same
  · rw [same] at escaped
    exact (plain (by simp [escaped])).elim

section Built

variable {input : ModelInput} {complex : Dictionary Model.ComplexNames}
  {types : List Schema.ComplexType} {findings : List Diagnostic} {stop : BuildState}

theorem nodup_memberKeys {registry : Name.Registry} {set : Schema.EntitySet}
    {type : Schema.EntityType}
    (made : Model.IsEntityOf language input complex registry set type entity)
    (distinct : (type.properties.map (·.name) ++ type.navigation.map (·.name)).Nodup) :
    (entity.members.map Prod.fst).Nodup := by
  have properties : type.properties.map (·.name) = entity.properties.map (·.originalName) :=
    made.properties.map_eq_map fun _ _ property => property.originalName.symm
  have navigation : (type.navigation.filter (Model.isKept input)).map (·.name) =
      entity.navigation.map (·.originalName) :=
    made.navigation.map_eq_map fun _ _ navigation => navigation.originalName.symm
  have keys : entity.members.map Prod.fst =
      type.properties.map (·.name) ++ (type.navigation.filter (Model.isKept input)).map (·.name) := by
    rw [Entity.map_members, properties, navigation]
    rfl
  have kept := (List.filter_sublist (p := Model.isKept input) (l := type.navigation)).map (·.name)
  rw [keys]
  exact distinct.sublist (kept.append_left _)

/-- No constant of a property or navigation property is called like one of the namespace itself. -/
theorem disjoint_ownConstants {name : String}
    (ran : (Model.service language input).run
      { registry := .empty name naming, findings := [] } = .ok (service, stop))
    (unlike : ∀ set ∈ input.schema.entitySets, set.name ∉ input.schema.complexNames)
    (isEntity : entity ∈ service.entities) :
    (entity.members.map (·.2.staticName)).Disjoint ownConstants := by
  obtain ⟨grows, types, complex, model⟩ := Model.isModelOf_of_run ran
  have conventional := grows.isConventional (Name.Registry.isConventional_empty _ _)
  obtain ⟨set, isSet, made⟩ := model.entities.exists_of_mem_right isEntity
  have withheld := Model.withholds_of_run_service ran isSet (unlike set isSet) made.className
  intro constant inMembers isOwn
  obtain ⟨member, isMember, rfl⟩ := List.mem_map.1 inMembers
  have held := (Model.isMember_of_mem_entity model isEntity member isMember).staticName
  have capitals := hasNoSmall_of_lookup grows.isExtended.convention conventional held
  have others : ∀ own ∈ ownConstants, own = "ALL_FIELDS" ∨ ¬ HasNoSmall own.toList := by decide
  rcases others _ isOwn with same | small
  · exact withheld.unheld _ rfl (same ▸ held)
  · exact small capitals

/-- In every package that is made of a model, the members of the entity classes are named apart but
for properties that are spelled like the method for the key. -/
theorem hasMembersApart_of_build
    {options : PackageOptions} {files : List OutputFile}
    (built : Model.build language input = .ok (service, findings))
    (emitted : package service options = .ok files)
    (distinct : ∀ type ∈ input.schema.entityTypes,
      (type.properties.map (·.name) ++ type.navigation.map (·.name)).Nodup)
    (unlike : ∀ set ∈ input.schema.entitySets, set.name ∉ input.schema.complexNames) :
    ∀ entity ∈ service.entities, ∃ file ∈ files, ∃ source declaration fields body,
      file.content = .source source ∧
        source.body = [.classDeclaration declaration, .interfaceDeclaration fields,
          .namespaceDeclaration entity.className none body] ∧
        HasMembersApart entity declaration body := by
  intro entity isEntity
  obtain ⟨⟨made, stop⟩, ran, same⟩ := Outcome.map_eq_ok_iff.1 built
  cases same
  obtain ⟨grows, types, complex, model⟩ := Model.isModelOf_of_run ran
  -- No two members are named alike, since no two of them are named alike in the schema.
  obtain ⟨set, -, ⟨type, found, isEntityOf⟩, -⟩ := model.entities.exists_of_mem_right isEntity
  have keys := nodup_memberKeys isEntityOf (distinct type (List.mem_of_find?_eq_some found))
  have apart := (Model.hasDistinctNames_of_isModelOf grows model).entities entity isEntity
  have isMember := Model.isMember_of_mem_entity model isEntity
  obtain ⟨file, isFile, source, body, content, isBody, declares⟩ :=
    exists_entityFile emitted isEntity
  refine ⟨file, isFile, source, _, _, body, content, declares, instanceNames_classDeclaration, ?_,
    ?_, constantNames_namespaceBody isBody, ?_⟩
  · rw [instanceNames_classDeclaration, List.nodup_append']
    simp [apart.instanceNames.nodup_iff.1 keys]
  · intro member inEntity isGetKeys
    have held := (isMember member inEntity).instanceName
    have variant := Model.mem_variants_of_run_service ran held
    rw [isGetKeys] at variant
    exact camelCase_of_identifier variant
  · rw [constantNames_namespaceBody isBody, List.nodup_append']
    exact ⟨apart.staticNames.nodup_iff.1 keys, by decide, disjoint_ownConstants ran unlike isEntity⟩

end Built

/-- The metadata of a building whose locks have a property that is called like the method for the
key, and one that is called like a constant of the namespace. -/
def building : ModelInput where
  schema :=
    { ns := "Building"
      namespaces := ["Building"]
      entityTypes := [
        { ns := "Building", name := "Lock", keys := ["GetKeys"], label := none
          properties := [
            Model.plainProperty "GetKeys" "Edm.String",
            Model.plainProperty "AllFields" "Edm.String"]
          navigation := [] }]
      entitySets := [{ name := "Locks", type := "Building.Lock", label := none }] }
  fileName := "Building"
  mapping := none
  swagger := none

theorem nodup_memberNames_building : ∀ type ∈ building.schema.entityTypes,
    (type.properties.map (·.name) ++ type.navigation.map (·.name)).Nodup := by
  decide

theorem not_mem_complexNames_building : ∀ set ∈ building.schema.entitySets,
    set.name ∉ building.schema.complexNames := by
  decide

theorem package_building : ∃ service findings files,
    Model.build language building = .ok (service, findings) ∧
      package service {} = .ok files ∧
      service.entities.map (·.members.map fun member =>
          (member.2.instanceName, member.2.staticName)) =
        [[("getKeys", "GET_KEYS"), ("allFields", "ALL_FIELDS_1")]] := by
  have ordered : Model.orderedComplexTypes building.schema = .ok [] :=
    Model.orderedComplexTypes_of_nil rfl
  have outline : ((Model.build language building).toOption.bind fun made =>
      (package made.1 {}).toOption.map fun _ =>
        made.1.entities.map (·.members.map fun member =>
          (member.2.instanceName, member.2.staticName))) =
            some [[("getKeys", "GET_KEYS"), ("allFields", "ALL_FIELDS_1")]] := by
    simp only [Model.build, Model.buildFrom, Model.service, ordered]
    decide +kernel
  exact exists_package_of_outline (fun service _ => service.entities.map (·.members.map fun member =>
    (member.2.instanceName, member.2.staticName))) outline

theorem hasMembersApart_building : ∃ service findings files,
    Model.build language building = .ok (service, findings) ∧
      package service {} = .ok files ∧
      service.entities.map (·.members.map fun member =>
          (member.2.instanceName, member.2.staticName)) =
        [[("getKeys", "GET_KEYS"), ("allFields", "ALL_FIELDS_1")]] ∧
      ∀ entity ∈ service.entities, ∃ file ∈ files, ∃ source declaration fields body,
        file.content = .source source ∧
          source.body = [.classDeclaration declaration, .interfaceDeclaration fields,
            .namespaceDeclaration entity.className none body] ∧
          HasMembersApart entity declaration body := by
  obtain ⟨service, findings, files, built, emitted, names⟩ := package_building
  exact ⟨service, findings, files, built, emitted, names, hasMembersApart_of_build built emitted
    nodup_memberNames_building not_mem_complexNames_building⟩

/-- The class of an entity may declare a name twice, although its members are named apart in the
schema. -/
theorem exists_instanceNames_not_nodup : ∃ (input : ModelInput) (service : Service)
    (findings : List Diagnostic) (files : List OutputFile),
      Model.build language input = .ok (service, findings) ∧
      package service {} = .ok files ∧
      (∀ type ∈ input.schema.entityTypes,
        (type.properties.map (·.name) ++ type.navigation.map (·.name)).Nodup) ∧
      (∀ set ∈ input.schema.entitySets, set.name ∉ input.schema.complexNames) ∧
      ∃ entity ∈ service.entities, ∃ file ∈ files, ∃ source declaration fields body,
        file.content = .source source ∧
          source.body = [.classDeclaration declaration, .interfaceDeclaration fields,
            .namespaceDeclaration entity.className none body] ∧
          declaration.instanceNames = ["getKeys", "allFields", "getKeys"] ∧
          ¬ declaration.instanceNames.Nodup := by
  obtain ⟨service, findings, files, built, emitted, names⟩ := package_building
  obtain ⟨entity, single, members⟩ := List.map_eq_singleton_iff.1 names
  have isEntity : entity ∈ service.entities := single ▸ List.mem_singleton_self entity
  obtain ⟨file, isFile, source, body, content, -, declares⟩ := exists_entityFile emitted isEntity
  have fields : entity.members.map (·.2.instanceName) = ["getKeys", "allFields"] := by
    have firsts := congrArg (List.map Prod.fst) members
    rwa [List.map_map] at firsts
  have instanceNames : (EntityFile.classDeclaration service entity).instanceNames =
      ["getKeys", "allFields", "getKeys"] := by
    rw [instanceNames_classDeclaration, fields]
    rfl
  refine ⟨building, service, findings, files, built, emitted, nodup_memberNames_building,
    not_mem_complexNames_building, entity, isEntity, file, isFile, source, _, _, body, content,
    declares, instanceNames, ?_⟩
  rw [instanceNames]
  decide

end TypeScript

end ODataClient
