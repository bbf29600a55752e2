import ODataClient.Proofs.Model.Failures
import ODataClient.Proofs.Schema.Structure

/-!
# Returned entities without a set

Entities can only be given back if an entity set holds them, as no class is made for their type
otherwise. A lint looks for function imports that break this rule before a model is built, and the
builder fails on them. The lint considers entity types only, whereas the builder looks for a complex
type of the name first. So what the lint reports is what the builder fails on, unless the name is
that of a complex type as well.
-/

namespace ODataClient

/-- A function import that gives back entities of a type, none of which are in an entity set. -/
def Schema.ReturnsOrphan (schema : Schema) (function : Schema.FunctionImport) (type : String) :
    Prop :=
  ∃ text reference, function.returnType = some text ∧ TypeReference.parse text = .ok reference ∧
    reference.qualifiedName? = some type ∧ type ∈ schema.entityTypes.map (·.qualifiedName) ∧
    schema.entitySetsOf type = []

/-- The lint has found that entities of the type are given back by the function import `owner`. -/
def Schema.ReportsOrphan (schema : Schema) (owner type : String) : Prop :=
  ∃ finding ∈ Lint.orphanEntityReturn.check schema,
    finding.cause = some (.unresolvedEntitySet owner type)

namespace Lint

variable {schema : Schema} {function : Schema.FunctionImport} {type : String}

theorem orphanType?_eq_some_iff :
    orphanType? schema function = some type ↔ schema.ReturnsOrphan function type := by
  constructor
  · intro orphan
    obtain ⟨text, returned, orphan⟩ := Option.bind_eq_some_iff.1 orphan
    obtain ⟨reference, parsed, orphan⟩ := Option.bind_eq_some_iff.1 orphan
    obtain ⟨name, named, orphan⟩ := Option.bind_eq_some_iff.1 orphan
    obtain ⟨found, isFound, orphan⟩ := Option.bind_eq_some_iff.1 orphan
    have sameName : found.qualifiedName = name := by simpa using List.find?_some isFound
    split at orphan
    · contradiction
    · next unserved =>
      obtain rfl := Option.some.inj orphan
      obtain rfl := sameName
      refine ⟨text, reference, returned, Outcome.toOption_eq_some_iff.1 parsed, named, ?_, ?_⟩
      · exact List.mem_map_of_mem (List.mem_of_find?_eq_some isFound)
      · simpa [isServed] using unserved
  · rintro ⟨text, reference, returned, parsed, named, isEntity, unserved⟩
    obtain ⟨found, isFound⟩ := Option.isSome_iff_exists.1
      (Schema.isSome_findEntityType?_iff.2 isEntity)
    have sameName : found.qualifiedName = type := by simpa using List.find?_some isFound
    simp [orphanType?, returned, parsed, Except.toOption, named, isFound, isServed, sameName,
      unserved]

theorem reportsOrphan_iff {owner : String} : schema.ReportsOrphan owner type ↔
    ∃ function ∈ schema.functionImports, function.name = owner ∧
      schema.ReturnsOrphan function type := by
  constructor
  · rintro ⟨finding, member, cause⟩
    obtain ⟨function, declared, reported⟩ := List.mem_filterMap.1 member
    obtain ⟨orphan, isOrphan, rfl⟩ := Option.map_eq_some_iff.1 reported
    obtain ⟨rfl, rfl⟩ := ModelError.unresolvedEntitySet.inj (Option.some.inj cause)
    exact ⟨function, declared, rfl, orphanType?_eq_some_iff.1 isOrphan⟩
  · rintro ⟨function, declared, rfl, returns⟩
    have reported := congrArg (Option.map fun type => (Diagnostic.ofModelError phase
      (.unresolvedEntitySet function.name type)).locatedAt function.name)
      (orphanType?_eq_some_iff.2 returns)
    exact ⟨_, List.mem_filterMap.2 ⟨function, declared, reported⟩, rfl⟩

/-- Where no two function imports have the same name, a report is about the one with its name. -/
theorem reportsOrphan_iff_returnsOrphan
    (distinct : (schema.functionImports.map (·.name)).Nodup)
    (declared : function ∈ schema.functionImports) :
    schema.ReportsOrphan function.name type ↔ schema.ReturnsOrphan function type := by
  rw [reportsOrphan_iff]
  constructor
  · rintro ⟨other, declaredToo, sameName, returns⟩
    obtain rfl := List.inj_on_of_nodup_map distinct declaredToo declared sameName
    exact returns
  · exact fun returns => ⟨function, declared, rfl, returns⟩

end Lint

namespace Model

open Build

variable {language : TargetLanguage} {input : ModelInput} {complex : Dictionary ComplexNames}
  {state : BuildState} {function : Schema.FunctionImport} {owner type : String}

theorem mem_complexNames_iff (naming : IsNaming language input.schema state.registry complex) :
    type ∈ input.schema.complexNames ↔ ∃ names, complex.get? type = some names := by
  constructor
  · exact exists_get?_of_mem_complexNames naming
  · rintro ⟨names, named⟩
    exact (naming.keys type).1 (List.mem_map_of_mem (Dictionary.mem_of_get? named))

/-- What is given back by a function import whose result is of a declared type: a complex type if
there is one of the name, and else an entity type. -/
theorem run_result_of_qualifiedName? {text : String} {reference : TypeReference}
    (returned : function.returnType = some text)
    (parsed : TypeReference.parse text = .ok reference)
    (named : reference.qualifiedName? = some type) :
    (result language input complex function).run state =
      match complex.get? type with
      | some names => .ok (.complex names.typeName names.factoryName
          (language.complexBuilderFunction names.typeName) reference.isCollection, state)
      | none =>
        if (input.schema.findEntityType? type).isNone then
          .error (.model (.unresolvedReturnType function.name text))
        else match (resultSet? input function type).bind (state.registry.lookup <| classSlot ·) with
          | some className => .ok (.entity className reference.isCollection, state)
          | none => .error (.model (.unresolvedEntitySet function.name type)) := by
  cases element : reference.element with
  | primitive name => simp [TypeReference.qualifiedName?, element, ElementType.qualifiedName?] at named
  | declared ns name =>
      obtain rfl : ns ++ "." ++ name = type := by
        simpa [TypeReference.qualifiedName?, element, ElementType.qualifiedName?] using named
      have read : (typeReference text).run state = .ok (reference, state) :=
        run_typeReference_eq_ok.2 ⟨parsed, rfl⟩
      unfold result
      simp only [returned]
      rw [run_bind_of_ok read]
      simp only [element]
      cases complex.get? (ns ++ "." ++ name) with
      | some names => rfl
      | none =>
          cases input.schema.findEntityType? (ns ++ "." ++ name) with
          | none => rfl
          | some found =>
              cases resultSet? input function (ns ++ "." ++ name) with
              | none => rfl
              | some set =>
                  have held : (classOf? set).run state =
                      .ok (state.registry.lookup (classSlot set), state) := rfl
                  simp only [Option.isNone_some, Bool.false_eq_true, if_false, Option.bind_some]
                  rw [run_bind_of_ok held]
                  cases state.registry.lookup (classSlot set) <;> rfl

/-- No consistent model can be missing because of a result that is a primitive or none. -/
theorem exists_qualifiedName?_of_run_result {error : ModelError}
    (failed : (result language input complex function).run state = .error (.model error)) :
    ∃ text reference name, function.returnType = some text ∧
      TypeReference.parse text = .ok reference ∧ reference.qualifiedName? = some name := by
  unfold result at failed
  cases returned : function.returnType with
  | none =>
      simp only [returned] at failed
      cases failed
  | some text =>
      simp only [returned, run_bind_eq_error] at failed
      rcases failed with failed | ⟨reference, middle, ran, failed⟩
      · obtain ⟨_, -, ⟨⟩⟩ := run_lift_eq_error.1 failed
      obtain ⟨parsed, rfl⟩ := run_typeReference_eq_ok.1 ran
      cases element : reference.element with
      | declared ns name =>
          refine ⟨text, reference, ns ++ "." ++ name, rfl, parsed, ?_⟩
          rw [TypeReference.qualifiedName?, element]
          rfl
      | primitive name =>
          simp only [element, run_bind_eq_error] at failed
          rcases failed with failed | ⟨mapping, middle, -, failed⟩
          · obtain ⟨_, -, ⟨⟩⟩ := run_lift_eq_error.1 failed
          · cases failed

/-- Where all classes and complex types have their names, a result fails for want of an entity set
just if its type is an entity type that no set holds, and no complex type. -/
theorem run_result_eq_unresolved_iff
    (naming : IsNaming language input.schema state.registry complex)
    (classes : HasClasses input.schema state.registry) :
    (result language input complex function).run state =
        .error (.model (.unresolvedEntitySet owner type)) ↔
      owner = function.name ∧ input.schema.ReturnsOrphan function type ∧
        type ∉ input.schema.complexNames := by
  constructor
  · intro failed
    obtain ⟨text, reference, name, returned, parsed, named⟩ :=
      exists_qualifiedName?_of_run_result failed
    rw [run_result_of_qualifiedName? returned parsed named] at failed
    cases isComplex : complex.get? name with
    | some names => simp [isComplex] at failed
    | none =>
        cases found : input.schema.findEntityType? name with
        | none => simp [isComplex, found] at failed
        | some entityType =>
            cases chosen : resultSet? input function name with
            | some set =>
                obtain ⟨className, held⟩ := classes set (mem_entitySets_of_resultSet? chosen).1
                simp [isComplex, found, chosen, held] at failed
            | none =>
                obtain ⟨rfl, rfl⟩ : function.name = owner ∧ name = type := by
                  simpa [isComplex, found, chosen] using failed
                have isEntity := Schema.isSome_findEntityType?_iff.1 (Option.isSome_of_eq_some found)
                refine ⟨rfl, ⟨text, reference, returned, parsed, named, isEntity, ?_⟩, ?_⟩
                · exact resultSet?_eq_none_iff.1 chosen
                · simp [mem_complexNames_iff naming, isComplex]
  · rintro ⟨rfl, ⟨text, reference, returned, parsed, named, isEntity, unserved⟩, notComplex⟩
    obtain ⟨entityType, found⟩ := Option.isSome_iff_exists.1
      (Schema.isSome_findEntityType?_iff.2 isEntity)
    have isComplex : complex.get? type = none := by
      simpa [mem_complexNames_iff naming, Option.eq_none_iff_forall_ne_some] using notComplex
    have chosen : resultSet? input function type = none := resultSet?_eq_none_iff.2 unserved
    rw [run_result_of_qualifiedName? returned parsed named]
    simp [isComplex, found, chosen]

/-- A function import of accepted documents fails for want of an entity set just if the lint reports
it and the type is no complex type as well; if it is one, it is what the function import gives
back. -/
theorem fails_iff_reports {sources : List Source} {first second third : BuildState}
    {classes : List (Schema.EntitySet × Schema.EntityType × String)}
    (accepted : Schema.parse sources = .ok input.schema)
    (namedClasses : (entityClasses input).run first = .ok (classes, second))
    (namedComplex : (complexNames language input).run second = .ok (complex, third))
    (later : third.registry.Extends state.registry)
    (declared : function ∈ input.schema.functionImports) :
    (∀ owner type, (result language input complex function).run state =
        .error (.model (.unresolvedEntitySet owner type)) ↔
      owner = function.name ∧ input.schema.ReportsOrphan owner type ∧
        type ∉ input.schema.complexNames) ∧
    ∀ type ∈ input.schema.complexNames, input.schema.ReportsOrphan function.name type →
      ∃ names isMulti, complex.get? type = some names ∧
        (result language input complex function).run state = .ok (.complex names.typeName
          names.factoryName (language.complexBuilderFunction names.typeName) isMulti, state) := by
  obtain ⟨-, held⟩ := advances_entityClasses namedClasses
  obtain ⟨toThird, naming⟩ := advances_complexNames namedComplex
  have classesHeld := ((hasClasses_of_forall₂ held).mono toThird.registry).mono later
  have namingHeld := naming.mono later
  have distinct := Schema.nodup_names_of_parse accepted .functionImport
  constructor
  · intro owner type
    rw [run_result_eq_unresolved_iff namingHeld classesHeld]
    refine and_congr_right ?_
    rintro rfl
    rw [Lint.reportsOrphan_iff_returnsOrphan distinct declared]
  · intro type isComplex reported
    obtain ⟨text, reference, returned, parsed, named, -, -⟩ :=
      (Lint.reportsOrphan_iff_returnsOrphan distinct declared).1 reported
    obtain ⟨names, found⟩ := (mem_complexNames_iff namingHeld).1 isComplex
    refine ⟨names, reference.isCollection, found, ?_⟩
    rw [run_result_of_qualifiedName? returned parsed named]
    simp only [found]

/-- The metadata of an archive without entity sets. Records are entities, folders are entities as
well as values, and a function gives back each of them. -/
def archiveTypes : Source where
  name := "archive.edmx"
  text := "<Edmx><DataServices><Schema Namespace=\"Archive\"><EntityType Name=\"Record\"/>
    <EntityType Name=\"Folder\"/><ComplexType Name=\"Folder\"/><EntityContainer>
    <FunctionImport Name=\"FindRecord\" ReturnType=\"Archive.Record\"/>
    <FunctionImport Name=\"FindFolder\" ReturnType=\"Archive.Folder\"/>
    </EntityContainer></Schema></DataServices></Edmx>"

/-- A function without parameters that is called by `GET`. -/
def plainFunction (name type : String) : Schema.FunctionImport where
  name
  returnType := some type
  entitySet := none
  httpMethod := "GET"
  label := none
  parameters := []

def archive : ModelInput where
  schema :=
    { ns := "Archive"
      namespaces := ["Archive"]
      entityTypes := [
        { ns := "Archive", name := "Record", keys := [], label := none
          properties := [], navigation := [] },
        { ns := "Archive", name := "Folder", keys := [], label := none
          properties := [], navigation := [] }]
      complexTypes := [{ ns := "Archive", name := "Folder", properties := [] }]
      functionImports := [
        plainFunction "FindRecord" "Archive.Record", plainFunction "FindFolder" "Archive.Folder"] }
  fileName := "archive"
  mapping := none
  swagger := none

set_option maxRecDepth 4000 in
theorem parse_archive : Schema.parse [archiveTypes] = .ok archive.schema := by
  have characters : archiveTypes.text.toList = _ := Schema.toList_of_eq_ofList rfl
  rw [Schema.parse, List.mapM_cons, Schema.partsOf, Document.parse?, Xml.Document.ofText?,
    characters]
  decide +kernel

/-- Where the naming of the archive begins. -/
def archiveStart : BuildState where
  registry := Name.Registry.empty "Archive" TypeScript.language.naming
  findings := []

theorem exists_run_archive : ∃ complex stop,
    (entityClasses archive).run archiveStart = .ok ([], archiveStart) ∧
      (complexNames TypeScript.language archive).run archiveStart = .ok (complex, stop) := by
  have succeeds : (((complexNames TypeScript.language archive).run archiveStart).toOption.map
      fun _ => ()) = some () := by
    decide +kernel
  obtain ⟨⟨complex, stop⟩, ran, -⟩ := Outcome.exists_of_toOption succeeds
  exact ⟨complex, stop, rfl, ran⟩

theorem reportsOrphan_archive : archive.schema.ReportsOrphan "FindRecord" "Archive.Record" ∧
    archive.schema.ReportsOrphan "FindFolder" "Archive.Folder" := by
  unfold Schema.ReportsOrphan
  decide +kernel

/-- Records that are given back are reported, and they cannot be built. -/
theorem fails_iff_reports_archive : ∃ complex stop,
    (entityClasses archive).run archiveStart = .ok ([], archiveStart) ∧
      (complexNames TypeScript.language archive).run archiveStart = .ok (complex, stop) ∧
      archive.schema.ReportsOrphan "FindRecord" "Archive.Record" ∧
      (result TypeScript.language archive complex
        (plainFunction "FindRecord" "Archive.Record")).run stop =
          .error (.model (.unresolvedEntitySet "FindRecord" "Archive.Record")) := by
  obtain ⟨complex, stop, ranClasses, ranComplex⟩ := exists_run_archive
  have reported := reportsOrphan_archive.1
  have notComplex : "Archive.Record" ∉ archive.schema.complexNames := by decide
  have declared : plainFunction "FindRecord" "Archive.Record" ∈ archive.schema.functionImports := by
    decide
  have agrees := (fails_iff_reports parse_archive ranClasses ranComplex (.refl _) declared).1
  exact ⟨complex, stop, ranClasses, ranComplex, reported,
    (agrees _ _).2 ⟨rfl, reported, notComplex⟩⟩

/-- Folders that are given back are reported although they can be built, as values. -/
theorem exists_reported_not_failing : Schema.parse [archiveTypes] = .ok archive.schema ∧
    (ComplexGraph.ofSchema archive.schema).postOrder = .ok ["Archive.Folder"] ∧
    ∃ complex stop, (entityClasses archive).run archiveStart = .ok ([], archiveStart) ∧
      (complexNames TypeScript.language archive).run archiveStart = .ok (complex, stop) ∧
      ∃ function ∈ archive.schema.functionImports,
        archive.schema.ReportsOrphan function.name "Archive.Folder" ∧
          (result TypeScript.language archive complex function).run stop ≠
            .error (.model (.unresolvedEntitySet function.name "Archive.Folder")) := by
  obtain ⟨complex, stop, ranClasses, ranComplex⟩ := exists_run_archive
  have ordered : (ComplexGraph.ofSchema archive.schema).postOrder = .ok ["Archive.Folder"] := by
    have names : (ComplexGraph.ofSchema archive.schema).names = ["Archive.Folder"] := by
      decide +kernel
    have folder : (ComplexGraph.ofSchema archive.schema).dependencies "Archive.Folder" = [] := by
      decide +kernel
    simp [ComplexGraph.postOrder, ComplexGraph.walk, names, folder]
  have naming := (advances_complexNames ranComplex).2
  have classes : HasClasses archive.schema stop.registry := fun _ isSet => by cases isSet
  refine ⟨parse_archive, ordered, complex, stop, ranClasses, ranComplex,
    plainFunction "FindFolder" "Archive.Folder", by decide, reportsOrphan_archive.2, fun failed => ?_⟩
  have isComplex : "Archive.Folder" ∈ archive.schema.complexNames := by decide
  exact ((run_result_eq_unresolved_iff naming classes).1 failed).2.2 isComplex

end Model

end ODataClient
