import ODataClient.Proofs.Model.Counterparts

/-!
# Auxiliary inputs

A mapping chooses the directory, the package and the path of a service, and a Swagger document
describes its parts. Neither has a say in what the service is made of.
-/

namespace ODataClient

namespace Service

def Property.undescribed (property : Property) : Property :=
  { property with description := "" }

def Entity.undescribed (entity : Entity) : Entity :=
  { entity with
    description := ""
    properties := entity.properties.map Property.undescribed
    keys := entity.keys.map Property.undescribed }

def ComplexType.undescribed (type : ComplexType) : ComplexType :=
  { type with
    description := ""
    properties := type.properties.map Property.undescribed }

/-- A service without what may be chosen for it and without the descriptions of its parts. -/
def skeleton (service : Service) : Service :=
  { service with
    directoryName := ""
    npmPackageName := ""
    servicePath := ""
    documentationUrl := none
    entities := service.entities.map Entity.undescribed
    complexTypes := service.complexTypes.map ComplexType.undescribed }

end Service

namespace Leeway

theorem entity_auxiliary : auxiliary.entity = Service.Entity.undescribed :=
  rfl

theorem complexType_auxiliary : auxiliary.complexType = Service.ComplexType.undescribed :=
  rfl

theorem functionImport_auxiliary : auxiliary.functionImport = id := by
  funext function
  obtain ⟨_, _, _, _, _, _, result⟩ := function
  cases result <;> rfl

end Leeway

namespace Model

open Build

variable {language : TargetLanguage} {input other : ModelInput} {name : String}
  {convention : NamingConvention} {findings : List Diagnostic}

/-- In a fresh registry every directory is free. -/
theorem exists_run_directory (readable : String) (explicit : Option String) :
    ∃ given registry, (Build.name (.directory readable explicit)).run
        { registry := .empty name convention, findings } = .ok (given, { registry, findings }) ∧
      registry.AgreesOutside .directories (.empty name convention) := by
  have free (wanted : String) : (Name.Registry.empty name convention).isTaken
      (Name.Request.directory readable explicit).slot.scope wanted = false := by
    rw [Bool.eq_false_iff, Ne, Name.Registry.isTaken_empty]
    rintro ⟨inTypes, -⟩
    cases inTypes
  have chosen : ∃ given, (Name.Registry.empty name convention).choose
      (.directory readable explicit) = .ok given := by
    simp only [Name.Registry.choose, free]
    cases explicit with
    | none => exact ⟨_, rfl⟩
    | some wanted => exact ⟨wanted, rfl⟩
  obtain ⟨given, chosen⟩ := chosen
  have resolved :=
    Name.Registry.resolve_eq_ok_iff.2 (.inr ⟨Name.Registry.lookup_empty, chosen, rfl⟩)
  exact ⟨given, _, run_name_eq_ok.2 ⟨_, resolved, rfl⟩,
    Name.Registry.agreesOutside_of_resolve rfl resolved⟩

/-- Whatever is chosen as the directory, the builds agree on everything else. -/
theorem matched_directory (readable : String) (explicit another : Option String) :
    Outcome.Matched Leeway.auxiliary.Apart (fun first second =>
      first.2.AgreesOutside Leeway.auxiliary.space second.2)
      ((Build.name (.directory readable explicit)).run
        { registry := .empty name convention, findings })
      ((Build.name (.directory readable another)).run
        { registry := .empty name convention, findings }) := by
  obtain ⟨given, registry, ran, agree⟩ := exists_run_directory readable explicit
  obtain ⟨givenToo, registryToo, ranToo, agreeToo⟩ := exists_run_directory readable another
  rw [ran, ranToo]
  exact .ok ⟨agree.trans agreeToo.symm, rfl⟩

theorem matched_service (input other : ModelInput) (schema : input.schema = other.schema)
    (fileName : input.fileName = other.fileName) :
    Outcome.Matched Leeway.auxiliary.Apart (fun first second =>
      first.1.skeleton = second.1.skeleton ∧ first.2.findings = second.2.findings)
      ((service language input).run { registry := .empty name convention, findings })
      ((service language other).run { registry := .empty name convention, findings }) := by
  have counterparts : Counterparts .auxiliary input other :=
    ⟨⟨input.schema.functionImports, schema.symm⟩, nofun⟩
  obtain ⟨parts, file, mapping, swagger⟩ := input
  obtain ⟨_, _, otherMapping, otherSwagger⟩ := other
  obtain rfl : parts = _ := schema
  obtain rfl : file = _ := fileName
  unfold service
  dsimp only
  cases orderedComplexTypes parts with
  | error error => exact .error _
  | ok types =>
      rw [lift, pure_bind, pure_bind, StateT.run_bind, StateT.run_bind]
      refine (matched_directory _ _ _).bind ?_
      rintro ⟨directoryName, start⟩ ⟨otherName, another⟩ agree
      refine Outcome.Matched.imp ((?_ : Couples .auxiliary Service.skeleton _ _)
        start another agree) fun _ _ alike => ⟨alike.1, alike.2.findings⟩
      refine Couples.bind_id (couples_mapM_id fun function _ => ?_) fun functionNames => ?_
      · exact couples_name (by show NameSpace.callables ≠ .directories; decide)
      refine (couples_entityClasses counterparts).bind_id fun classes => ?_
      refine (couples_complexNames counterparts).bind fun complex others alike => ?_
      refine (couples_mapM fun type _ => couples_complexType counterparts alike).bind
        fun complexTypes otherTypes sameTypes => ?_
      refine (couples_mapM fun entry _ => couples_entity counterparts alike).bind
        fun entities otherEntities sameEntities => ?_
      refine (couples_mapM fun entry _ => couples_functionImport counterparts alike).bind
        fun functionImports otherFunctions sameFunctions => couples_pure ?_
      rw [Leeway.functionImport_auxiliary, List.map_id, List.map_id] at sameFunctions
      rw [Leeway.complexType_auxiliary] at sameTypes
      rw [Leeway.entity_auxiliary] at sameEntities
      simp only [Service.skeleton, sameTypes, sameEntities, sameFunctions]

/-- Builds from fresh registries fail alike whatever the auxiliary inputs are, or make services with
one skeleton and report the same findings. -/
theorem matched_buildFrom (schema : Schema) (fileName : String)
    (mapping otherMapping : Option ServiceMapping) (swagger otherSwagger : Option Swagger)
    (name : String) (convention : NamingConvention) :
    Outcome.Matched Leeway.auxiliary.Apart (fun first second =>
      first.1.skeleton = second.1.skeleton ∧ first.2 = second.2)
      (buildFrom language { schema, fileName, mapping, swagger } (.empty name convention))
      (buildFrom language { schema, fileName, mapping := otherMapping, swagger := otherSwagger }
        (.empty name convention)) := by
  unfold buildFrom
  refine Outcome.Matched.map (matched_service _ _ ?_ ?_) fun _ _ alike => alike
  · rfl
  · rfl

end Model

end ODataClient
