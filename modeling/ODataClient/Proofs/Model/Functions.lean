import ODataClient.Proofs.Model.Types

/-!
# Function imports, their parameters and results

What a function import of a model has to do with the one of the schema that it is made from. The
class of returned entities is that of an entity set which holds them.
-/

namespace ODataClient.Model

open Build

variable {language : TargetLanguage} {input : ModelInput} {complex : Dictionary ComplexNames}
  {registry earlier later : Name.Registry} {start stop : BuildState}

/-- The construct whose name is the function of a function import. -/
def functionSlot (function : Schema.FunctionImport) : Name.Slot :=
  { kind := .function, owner := "", key := function.name }

theorem advances_functionNames {functions : List Schema.FunctionImport}
    {functionNames : List String}
    (ran : (functions.mapM fun function => Build.name (.function function.name)).run start =
      .ok (functionNames, stop)) :
    start.Advances stop [] ∧ List.Forall₂ (fun function functionName =>
      stop.registry.lookup (functionSlot function) = some functionName)
        functions functionNames := by
  apply advances_mapM_quiet (fun registry function functionName =>
    registry.lookup (functionSlot function) = some functionName) ?_ ?_ ran
  · intro earlier later function functionName grows held
    exact grows.lookup _ _ held
  · intro function _ before after functionName _ ran
    exact advances_name (.inl rfl) ran

/-- A parameter of the function `functionName` with the one of the schema that it is made from. -/
structure IsParameterOf (language : TargetLanguage) (registry : Name.Registry)
    (functionName : String) (source : Schema.Parameter) (made : Service.Parameter) : Prop where
  originalName : made.originalName = source.name
  type : TypeReference.parse source.type = .ok (.single (.primitive made.edmType))
  targetType : ∃ mapping, language.primitive made.edmType = .ok mapping ∧
    made.targetType = mapping.targetType
  nullable : made.nullable = source.nullable.getD false
  parameterName :
    registry.lookup { kind := .parameter, owner := functionName, key := source.name } =
      some made.parameterName

theorem IsParameterOf.mono {functionName : String} {source : Schema.Parameter}
    {made : Service.Parameter} (grows : earlier.Extends later)
    (parameter : IsParameterOf language earlier functionName source made) :
    IsParameterOf language later functionName source made :=
  { parameter with parameterName := grows.lookup _ _ parameter.parameterName }

theorem advances_parameter {function : Schema.FunctionImport} {functionName : String}
    {source : Schema.Parameter} {made : Service.Parameter}
    (ran : (parameter language function functionName source).run start = .ok (made, stop)) :
    start.Advances stop [] ∧ IsParameterOf language stop.registry functionName source made := by
  obtain ⟨reference, first, ranParse, ran⟩ := run_bind_eq_ok.1 ran
  obtain ⟨parsed, rfl⟩ := run_typeReference_eq_ok.1 ranParse
  split at ran
  · next name =>
    obtain ⟨mapping, second, ranPrimitive, ran⟩ := run_bind_eq_ok.1 ran
    obtain ⟨known, rfl⟩ := run_primitive_eq_ok.1 ranPrimitive
    obtain ⟨parameterName, third, ranName, ran⟩ := run_bind_eq_ok.1 ran
    obtain ⟨rfl, rfl⟩ := run_pure_eq_ok.1 ran
    obtain ⟨advances, held⟩ := advances_name (.inl rfl) ranName
    exact ⟨advances, rfl, parsed, ⟨mapping, known, rfl⟩, rfl, held⟩
  · exact (run_fail_ne_ok ran).elim

theorem advances_parameters {function : Schema.FunctionImport} {functionName : String}
    {sources : List Schema.Parameter} {made : List Service.Parameter}
    (ran : (sources.mapM (parameter language function functionName)).run start =
      .ok (made, stop)) :
    start.Advances stop [] ∧
      List.Forall₂ (IsParameterOf language stop.registry functionName) sources made := by
  apply advances_mapM_quiet (fun registry => IsParameterOf language registry functionName) ?_ ?_ ran
  · intro earlier later source made grows isParameter
    exact isParameter.mono grows
  · intro source _ before after made _ ran
    exact advances_parameter ran

theorem mem_entitySets_of_resultSet? {function : Schema.FunctionImport} {type : String}
    {set : Schema.EntitySet} (chosen : resultSet? input function type = some set) :
    set ∈ input.schema.entitySets ∧ set.type = type := by
  rcases Option.or_eq_some_iff.1 chosen with named | ⟨-, first⟩
  · obtain ⟨found, same⟩ := Option.filter_eq_some_iff.1 named
    obtain ⟨name, -, member⟩ := Option.bind_eq_some_iff.1 found
    exact ⟨List.mem_of_find?_eq_some member, by simpa using same⟩
  · obtain ⟨member, same⟩ := List.mem_filter.1 (List.mem_of_head? first)
    exact ⟨member, by simpa using same⟩

/-- A type is found a set just if one holds its entities, wherever the function import says that
they are. -/
theorem resultSet?_eq_none_iff {function : Schema.FunctionImport} {type : String} :
    resultSet? input function type = none ↔ input.schema.entitySetsOf type = [] := by
  constructor
  · intro missing
    exact List.head?_eq_none_iff.1 (Option.or_eq_none_iff.1 missing).2
  · intro unserved
    cases chosen : resultSet? input function type with
    | none => rfl
    | some set =>
        obtain ⟨declared, same⟩ := mem_entitySets_of_resultSet? chosen
        have held : set ∈ input.schema.entitySetsOf type :=
          List.mem_filter.2 ⟨declared, by simpa using same⟩
        simp [unserved] at held

/-- The result of a function import with the reference that it is made from. -/
inductive IsResultOf (language : TargetLanguage) (input : ModelInput)
    (complex : Dictionary ComplexNames) (registry : Name.Registry)
    (function : Schema.FunctionImport) : Service.Result → Prop
  | void (nothing : function.returnType = none) :
      IsResultOf language input complex registry function .void
  | primitive {text name : String} {reference : TypeReference} {mapping : PrimitiveMapping}
      (returned : function.returnType = some text)
      (parsed : TypeReference.parse text = .ok reference)
      (element : reference.element = .primitive name)
      (known : language.primitive name = .ok mapping) :
      IsResultOf language input complex registry function
        (.primitive name mapping.targetType mapping.builderFunction reference.isCollection)
  | complex {text ns name : String} {reference : TypeReference} {names : ComplexNames}
      (returned : function.returnType = some text)
      (parsed : TypeReference.parse text = .ok reference)
      (element : reference.element = .declared ns name)
      (named : complex.get? (ns ++ "." ++ name) = some names) :
      IsResultOf language input complex registry function
        (.complex names.typeName names.factoryName
          (language.complexBuilderFunction names.typeName) reference.isCollection)
  | entity {text ns name className : String} {reference : TypeReference}
      {set : Schema.EntitySet} (returned : function.returnType = some text)
      (parsed : TypeReference.parse text = .ok reference)
      (element : reference.element = .declared ns name)
      (chosen : resultSet? input function (ns ++ "." ++ name) = some set)
      (held : registry.lookup (classSlot set) = some className) :
      IsResultOf language input complex registry function
        (.entity className reference.isCollection)

theorem IsResultOf.mono {function : Schema.FunctionImport} {made : Service.Result}
    (grows : earlier.Extends later)
    (result : IsResultOf language input complex earlier function made) :
    IsResultOf language input complex later function made := by
  cases result with
  | void nothing => exact .void nothing
  | primitive returned parsed element known => exact .primitive returned parsed element known
  | complex returned parsed element named => exact .complex returned parsed element named
  | entity returned parsed element chosen held =>
      exact .entity returned parsed element chosen (grows.lookup _ _ held)

theorem isResultOf_of_result {function : Schema.FunctionImport} {made : Service.Result}
    (ran : (result language input complex function).run start = .ok (made, stop)) :
    start = stop ∧ IsResultOf language input complex start.registry function made := by
  unfold result at ran
  cases returned : function.returnType with
  | none =>
      simp only [returned] at ran
      obtain ⟨rfl, rfl⟩ := run_pure_eq_ok.1 ran
      exact ⟨rfl, .void returned⟩
  | some text =>
      simp only [returned] at ran
      obtain ⟨reference, first, ranParse, ran⟩ := run_bind_eq_ok.1 ran
      obtain ⟨parsed, rfl⟩ := run_typeReference_eq_ok.1 ranParse
      cases element : reference.element with
      | primitive name =>
          simp only [element] at ran
          obtain ⟨mapping, second, ranPrimitive, ran⟩ := run_bind_eq_ok.1 ran
          obtain ⟨known, rfl⟩ := run_primitive_eq_ok.1 ranPrimitive
          obtain ⟨rfl, rfl⟩ := run_pure_eq_ok.1 ran
          exact ⟨rfl, .primitive returned parsed element known⟩
      | declared ns name =>
          simp only [element] at ran
          cases named : complex.get? (ns ++ "." ++ name) with
          | some names =>
              simp only [named] at ran
              obtain ⟨rfl, rfl⟩ := run_pure_eq_ok.1 ran
              exact ⟨rfl, .complex returned parsed element named⟩
          | none =>
              simp only [named] at ran
              split at ran
              · exact (run_fail_ne_ok ran).elim
              · cases chosen : resultSet? input function (ns ++ "." ++ name) with
                | none =>
                    simp only [chosen] at ran
                    exact (run_fail_ne_ok ran).elim
                | some set =>
                    simp only [chosen] at ran
                    obtain ⟨given, second, ranClass, ran⟩ := run_bind_eq_ok.1 ran
                    obtain ⟨same, rfl⟩ := run_nameOf?_eq_ok.1 ranClass
                    cases given with
                    | none => exact (run_fail_ne_ok ran).elim
                    | some className =>
                        obtain ⟨rfl, rfl⟩ := run_pure_eq_ok.1 ran
                        exact ⟨rfl, .entity returned parsed element chosen same⟩

/-- A function import with the one of the schema that it is made from. -/
structure IsFunctionImportOf (language : TargetLanguage) (input : ModelInput)
    (complex : Dictionary ComplexNames) (registry : Name.Registry)
    (source : Schema.FunctionImport) (made : Service.FunctionImport) : Prop where
  originalName : made.originalName = source.name
  functionName : registry.lookup (functionSlot source) = some made.functionName
  parametersTypeName :
    registry.lookup { kind := .type, owner := "", key := source.name ++ "()" } =
      some made.parametersTypeName
  httpMethod : made.httpMethod = source.httpMethod
  parameters : List.Forall₂ (IsParameterOf language registry made.functionName)
    source.parameters made.parameters
  result : IsResultOf language input complex registry source made.result

theorem IsFunctionImportOf.mono {source : Schema.FunctionImport}
    {made : Service.FunctionImport} (grows : earlier.Extends later)
    (function : IsFunctionImportOf language input complex earlier source made) :
    IsFunctionImportOf language input complex later source made where
  originalName := function.originalName
  functionName := grows.lookup _ _ function.functionName
  parametersTypeName := grows.lookup _ _ function.parametersTypeName
  httpMethod := function.httpMethod
  parameters := function.parameters.imp fun _ _ parameter => parameter.mono grows
  result := function.result.mono grows

theorem advances_functionImport {source : Schema.FunctionImport} {functionName : String}
    {made : Service.FunctionImport}
    (named : start.registry.lookup (functionSlot source) = some functionName)
    (ran : (functionImport language input complex source functionName).run start =
      .ok (made, stop)) :
    start.Advances stop [] ∧
      IsFunctionImportOf language input complex stop.registry source made := by
  obtain ⟨typeName, first, ranType, ran⟩ := run_bind_eq_ok.1 ran
  obtain ⟨parameters, second, ranParameters, ran⟩ := run_bind_eq_ok.1 ran
  obtain ⟨result, third, ranResult, ran⟩ := run_bind_eq_ok.1 ran
  obtain ⟨rfl, isResult⟩ := isResultOf_of_result ranResult
  obtain ⟨rfl, rfl⟩ := run_pure_eq_ok.1 ran
  obtain ⟨toFirst, heldType⟩ := advances_name (.inl rfl) ranType
  obtain ⟨toSecond, madeParameters⟩ := advances_parameters ranParameters
  have advances := toSecond.after_quiet toFirst
  exact ⟨advances, rfl, advances.registry.lookup _ _ named,
    toSecond.registry.lookup _ _ heldType, rfl, madeParameters, isResult⟩

end ODataClient.Model
