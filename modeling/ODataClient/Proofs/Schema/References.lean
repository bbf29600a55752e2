import ODataClient.Proofs.Schema.Accepted

/-!
# References of accepted schemas

Alternative names of namespaces are replaced when a type reference is kept, and once more when it is
checked that the kept text leads to a declared type. What is checked is therefore not quite that the
kept references are closed. The two agree unless the namespace that a kept reference names is itself
an alternative name, of another namespace.
-/

namespace ODataClient.Schema

variable {sources : List Source} {context : MergeContext} {schema : Schema}

/-- The qualified names of the complex types. -/
def complexNames (schema : Schema) : List String :=
  schema.complexTypes.map (·.qualifiedName)

/-- The qualified names of the entity and complex types. -/
def typeNames (schema : Schema) : List String :=
  schema.entityTypes.map (·.qualifiedName) ++ schema.complexNames

/-- Something that holds of every type reference of a schema together with the names of the types
that may be referred to there. -/
structure EveryReference (schema : Schema) (holds : List String → String → Prop) : Prop where
  entityTypes : ∀ type ∈ schema.entityTypes, ∀ property ∈ type.properties,
    holds schema.complexNames property.type
  complexTypes : ∀ type ∈ schema.complexTypes, ∀ property ∈ type.properties,
    holds schema.complexNames property.type
  parameters : ∀ function ∈ schema.functionImports, ∀ parameter ∈ function.parameters,
    holds schema.typeNames parameter.type
  returnTypes : ∀ function ∈ schema.functionImports, ∀ type, function.returnType = some type →
    holds schema.typeNames type

/-- A text that reads as a primitive or as a type with one of the given names, alone or in a
collection, once the namespace is renamed. -/
def LeadsToOneOf (rename : String → String) (names : List String) (text : String) : Prop :=
  ∃ reference, TypeReference.parse text = .ok reference ∧
    ∀ ns name, reference.element = .declared ns name → rename ns ++ "." ++ name ∈ names

instance {rename : String → String} {names : List String} {text : String} :
    Decidable (LeadsToOneOf rename names text) :=
  match parsed : TypeReference.parse text with
  | .error _ => isFalse fun ⟨reference, found, _⟩ => by simp [parsed] at found
  | .ok reference =>
    match element : reference.element with
    | .primitive _ => isTrue ⟨reference, parsed, by simp [element]⟩
    | .declared ns name =>
      decidable_of_iff (rename ns ++ "." ++ name ∈ names)
        (by simp [LeadsToOneOf, parsed, element])

/-- A text that, if renaming changes the namespace it names, reads as a type with one of the given
names nonetheless. -/
def IsUnambiguous (rename : String → String) (names : List String) (text : String) : Prop :=
  ∀ reference ns name, TypeReference.parse text = .ok reference →
    reference.element = .declared ns name → rename ns ≠ ns → ns ++ "." ++ name ∈ names

/-- Every reference is to a primitive or to a type of the schema. -/
def IsClosed (schema : Schema) : Prop :=
  schema.EveryReference (LeadsToOneOf id)

theorem EveryReference.mp {first second third : List String → String → Prop}
    (next : ∀ names text, first names text → second names text → third names text)
    (isFirst : schema.EveryReference first) (isSecond : schema.EveryReference second) :
    schema.EveryReference third where
  entityTypes type member property isProperty :=
    next _ _ (isFirst.entityTypes type member property isProperty)
      (isSecond.entityTypes type member property isProperty)
  complexTypes type member property isProperty :=
    next _ _ (isFirst.complexTypes type member property isProperty)
      (isSecond.complexTypes type member property isProperty)
  parameters function member parameter isParameter :=
    next _ _ (isFirst.parameters function member parameter isParameter)
      (isSecond.parameters function member parameter isParameter)
  returnTypes function member type returned :=
    next _ _ (isFirst.returnTypes function member type returned)
      (isSecond.returnTypes function member type returned)

theorem isSome_findComplexType?_iff {name : String} :
    (schema.findComplexType? name).isSome = true ↔ name ∈ schema.complexNames := by
  simp [findComplexType?, complexNames]

theorem isSome_findEntityType?_iff {name : String} :
    (schema.findEntityType? name).isSome = true ↔
      name ∈ schema.entityTypes.map (·.qualifiedName) := by
  simp [findEntityType?]

theorem qualifiedName?_mapNamespace {reference : TypeReference} {rename : String → String}
    {ns name : String} (element : reference.element = .declared ns name) :
    (reference.mapNamespace rename).qualifiedName? = some (rename ns ++ "." ++ name) := by
  cases reference with
  | single type =>
      obtain rfl : type = .declared ns name := element
      rfl
  | collection type =>
      obtain rfl : type = .declared ns name := element
      rfl

theorem leadsToOneOf_of_checkReference {isDeclared : String → Bool} {names : List String}
    {text : String} {place : Construct} {result : Unit}
    (declared : ∀ name, isDeclared name = true → name ∈ names)
    (checked : checkReference context isDeclared text place = .ok result) :
    LeadsToOneOf context.resolveNamespace names text := by
  obtain ⟨renamed, read, checked⟩ := Outcome.bind_eq_ok_iff.1 checked
  unfold MergeContext.typeReference at read
  cases parsed : TypeReference.parse text with
  | error reason =>
      rw [parsed] at read
      contradiction
  | ok reference =>
      rw [parsed] at read
      cases read
      refine ⟨reference, parsed, ?_⟩
      intro ns name element
      simp only [qualifiedName?_mapNamespace element] at checked
      split at checked
      · next isName => exact declared _ isName
      · contradiction

theorem leadsToOneOf_of_checkProperty {type : String} {property : Property} {result : Unit}
    (checked : checkProperty context schema type property = .ok result) :
    LeadsToOneOf context.resolveNamespace schema.complexNames property.type :=
  leadsToOneOf_of_checkReference (fun _ => isSome_findComplexType?_iff.1) checked

/-- Checked schemas lead to declared types once the namespaces of their references are renamed. -/
theorem everyReference_of_checkReferences {result : Unit}
    (checked : checkReferences context schema = .ok result) :
    schema.EveryReference (LeadsToOneOf context.resolveNamespace) := by
  obtain ⟨_, entityTypes, checked⟩ := Outcome.bind_eq_ok_iff.1 checked
  obtain ⟨_, complexTypes, checked⟩ := Outcome.bind_eq_ok_iff.1 checked
  obtain ⟨_, -, checked⟩ := Outcome.bind_eq_ok_iff.1 checked
  obtain ⟨_, -, functionImports⟩ := Outcome.bind_eq_ok_iff.1 checked
  rw [Outcome.forM_eq_ok_iff] at entityTypes complexTypes functionImports
  have declared (name : String) : ((schema.findEntityType? name).isSome ||
      (schema.findComplexType? name).isSome) = true → name ∈ schema.typeNames := by
    rw [Bool.or_eq_true, isSome_findEntityType?_iff, isSome_findComplexType?_iff, typeNames,
      List.mem_append]
    exact id
  constructor
  · intro type member property isProperty
    obtain ⟨_, properties, -⟩ := Outcome.bind_eq_ok_iff.1 (entityTypes type member)
    exact leadsToOneOf_of_checkProperty (Outcome.forM_eq_ok_iff.1 properties property isProperty)
  · intro type member property isProperty
    have properties := complexTypes type member
    exact leadsToOneOf_of_checkProperty (Outcome.forM_eq_ok_iff.1 properties property isProperty)
  · intro function member parameter isParameter
    obtain ⟨_, parameters, -⟩ := Outcome.bind_eq_ok_iff.1 (functionImports function member)
    exact leadsToOneOf_of_checkReference declared
      (Outcome.forM_eq_ok_iff.1 parameters parameter isParameter)
  · intro function member type returned
    obtain ⟨_, -, rest⟩ := Outcome.bind_eq_ok_iff.1 (functionImports function member)
    rw [returned] at rest
    obtain ⟨_, isChecked, -⟩ := Outcome.bind_eq_ok_iff.1 rest
    exact leadsToOneOf_of_checkReference declared isChecked

/-- The references of accepted documents are closed just if those whose namespace is renamed are
unambiguous. -/
theorem isClosed_iff_of_parse (accepted : parse sources = .ok schema) :
    schema.EveryReference (LeadsToOneOf (contextOf sources).resolveNamespace) ∧
      (schema.IsClosed ↔
        schema.EveryReference (IsUnambiguous (contextOf sources).resolveNamespace)) := by
  have checked := everyReference_of_checkReferences (checkReferences_of_parse accepted)
  refine ⟨checked, fun closed => ?_, fun unambiguous => ?_⟩
  · refine EveryReference.mp ?_ checked closed
    rintro names text - ⟨reference, parsed, declared⟩ other ns name parsedOther element -
    cases parsed.symm.trans parsedOther
    exact declared ns name element
  · refine EveryReference.mp ?_ checked unambiguous
    rintro names text ⟨reference, parsed, declared⟩ alone
    refine ⟨reference, parsed, fun ns name element => ?_⟩
    by_cases same : (contextOf sources).resolveNamespace ns = ns
    · rw [id, ← same]
      exact same.symm ▸ declared ns name element
    · exact alone reference ns name parsed element same

/-- A document of two namespaces. The first goes by another name, which its only reference uses; its
own name is another name for the second. -/
def chained : Source where
  name := "service.edmx"
  text := "<Edmx><DataServices><Schema Namespace=\"Y\" Alias=\"X\"><ComplexType Name=\"T\">" ++
    "<Property Name=\"P\" Type=\"X.A\"/></ComplexType></Schema>" ++
    "<Schema Namespace=\"Z\" Alias=\"Y\"><ComplexType Name=\"A\"/></Schema>" ++
    "</DataServices></Edmx>"

theorem parse_chained : ∃ schema, parse [chained] = .ok schema ∧
    schema.complexNames = ["Y.T", "Z.A"] ∧
      ∃ type ∈ schema.complexTypes, ∃ property ∈ type.properties, property.type = "Y.A" := by
  have outline : ((parse [chained]).toOption.any fun schema =>
      schema.complexNames = ["Y.T", "Z.A"] ∧
        ∃ type ∈ schema.complexTypes, ∃ property ∈ type.properties, property.type = "Y.A") =
          true := by
    decide +kernel
  cases accepted : parse [chained] with
  | error error =>
      rw [accepted] at outline
      contradiction
  | ok schema =>
      rw [accepted] at outline
      exact ⟨schema, rfl, of_decide_eq_true outline⟩

/-- An accepted document may refer to a type that it does not declare. -/
theorem exists_accepted_not_isClosed : ∃ schema, parse [chained] = .ok schema ∧
    ¬ schema.IsClosed := by
  obtain ⟨schema, accepted, names, type, member, property, isProperty, typed⟩ := parse_chained
  refine ⟨schema, accepted, fun closed => ?_⟩
  obtain ⟨reference, parsed, declared⟩ := closed.complexTypes type member property isProperty
  have read : (TypeReference.parse "Y.A").toOption = some (.single (.declared "Y" "A")) := by
    decide +kernel
  rw [typed] at parsed
  rw [parsed] at read
  obtain rfl := Option.some.inj read
  have isName : "Y.A" ∈ schema.complexNames := declared "Y" "A" rfl
  rw [names] at isName
  revert isName
  decide

theorem isClosed_iff_chained : ∃ schema, parse [chained] = .ok schema ∧
    schema.EveryReference (LeadsToOneOf (contextOf [chained]).resolveNamespace) ∧
      (schema.IsClosed ↔
        schema.EveryReference (IsUnambiguous (contextOf [chained]).resolveNamespace)) := by
  obtain ⟨schema, accepted, -⟩ := parse_chained
  exact ⟨schema, accepted, isClosed_iff_of_parse accepted⟩

end ODataClient.Schema
