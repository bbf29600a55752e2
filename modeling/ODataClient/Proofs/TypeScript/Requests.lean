import ODataClient.Proofs.Code.Requests
import ODataClient.TypeScript.Package

/-!
# What the files of a package ask for

The names that each kind of file imports, one by one: those that every file of the kind needs, and
those that it needs because of what its entity, complex type or functions are made of.
-/

namespace ODataClient.TypeScript

open Code (Imports ImportSource)
open Service (Entity ComplexType FunctionImport Property NavigationProperty)

variable {gathered : Imports} {source : ImportSource} {name : String} {type : String}

/-- A type of values that is imported because it is not built in. -/
inductive AsksForValues (type : String) : ImportSource → String → Prop
  | mk {module : String} (found : typeModule? type = some module) :
      AsksForValues type ⟨module, false⟩ type

theorem holds_importValueType : (importValueType gathered type).Holds source name ↔
    gathered.Holds source name ∨ AsksForValues type source name := by
  unfold importValueType
  split
  · next module found =>
    rw [Imports.holds_value]
    refine or_congr_right ⟨?_, ?_⟩
    · rintro ⟨rfl, rfl⟩
      exact .mk found
    · rintro ⟨again⟩
      exact ⟨by rw [Option.some.inj (found.symm.trans again)], rfl⟩
  · next missing =>
    refine (or_iff_left ?_).symm
    rintro ⟨found⟩
    exact Option.some_ne_none _ (found.symm.trans missing)

/-- What is asked for on behalf of a property, where the given names of the runtime are needed
unless its values are complex. -/
inductive AsksForProperty (needed : List String) (property : Property) :
    ImportSource → String → Prop
  | complex {name : String} (isComplex : property.isComplex = true)
      (isName : name ∈ [property.targetType, property.fieldType]) :
      AsksForProperty needed property ⟨siblingModule property.targetType, false⟩ name
  | values {source : ImportSource} {name : String} (isPrimitive : property.isComplex = false)
      (asks : AsksForValues property.targetType source name) :
      AsksForProperty needed property source name
  | runtime {name : String} (isPrimitive : property.isComplex = false) (isName : name ∈ needed) :
      AsksForProperty needed property ⟨coreModule, false⟩ name

theorem holds_importProperty (needed : List String) {property : Property} :
    (if property.isComplex then importComplexType gathered property
      else (importValueType gathered property.targetType).values coreModule needed).Holds
        source name ↔ gathered.Holds source name ∨ AsksForProperty needed property source name := by
  cases isComplex : property.isComplex with
  | true =>
      rw [if_pos rfl, importComplexType, Imports.holds_values]
      refine or_congr_right ⟨?_, ?_⟩
      · rintro ⟨rfl, isName⟩
        exact .complex isComplex isName
      · intro asks
        cases asks with
        | complex _ isName => exact ⟨rfl, isName⟩
        | values isPrimitive | runtime isPrimitive => simp [isComplex] at isPrimitive
  | false =>
      rw [if_neg Bool.false_ne_true, Imports.holds_values, holds_importValueType, or_assoc]
      refine or_congr_right ⟨?_, ?_⟩
      · rintro (asks | ⟨rfl, isName⟩)
        · exact .values isComplex asks
        · exact .runtime isComplex isName
      · intro asks
        cases asks with
        | complex isTrue => simp [isComplex] at isTrue
        | values _ asks => exact .inl asks
        | runtime _ isName => exact .inr ⟨rfl, isName⟩

namespace EntityFile

/-- What is asked for on behalf of a navigation property. -/
inductive AsksForNavigation (entity : Entity) (navigation : NavigationProperty) :
    ImportSource → String → Prop
  | link : AsksForNavigation entity navigation ⟨coreModule, false⟩ (linkType navigation)
  | target (isOther : navigation.targetClass ≠ entity.className) :
      AsksForNavigation entity navigation ⟨siblingModule navigation.targetClass, false⟩
        navigation.targetClass
  | interface (isOther : navigation.targetClass ≠ entity.className) :
      AsksForNavigation entity navigation ⟨siblingModule navigation.targetClass, true⟩
        (interfaceOf navigation.targetClass)

theorem holds_importNavigation {entity : Entity} {navigation : NavigationProperty} :
    (importNavigation entity gathered navigation).Holds source name ↔
      gathered.Holds source name ∨ AsksForNavigation entity navigation source name := by
  unfold importNavigation
  dsimp only
  split
  · next isOwn =>
    rw [Imports.holds_value]
    refine or_congr_right ⟨?_, ?_⟩
    · rintro ⟨rfl, rfl⟩
      exact .link
    · intro asks
      cases asks with
      | link => exact ⟨rfl, rfl⟩
      | target isOther | interface isOther => exact (isOther isOwn).elim
  · next isOther =>
    rw [Imports.holds_type, Imports.holds_value, Imports.holds_value, or_assoc, or_assoc]
    refine or_congr_right ⟨?_, ?_⟩
    · rintro (⟨rfl, rfl⟩ | ⟨rfl, rfl⟩ | ⟨rfl, rfl⟩)
      · exact .link
      · exact .target isOther
      · exact .interface isOther
    · intro asks
      cases asks with
      | link => exact .inl ⟨rfl, rfl⟩
      | target => exact .inr (.inl ⟨rfl, rfl⟩)
      | interface => exact .inr (.inr ⟨rfl, rfl⟩)

/-- What every file of an entity needs of the runtime. -/
def needed : List String :=
  ["AllFields", "CustomField", "Entity", "EntityBuilderType", "Selectable"]

/-- What the file of an entity asks for. -/
inductive Asks (entity : Entity) : ImportSource → String → Prop
  | runtime {name : String} (isName : name ∈ needed) : Asks entity ⟨coreModule, false⟩ name
  | requestBuilder : Asks entity ⟨siblingModule (requestBuilderClass entity), false⟩
      (requestBuilderClass entity)
  | property {property : Property} {source : ImportSource} {name : String}
      (member : property ∈ entity.properties)
      (asks : AsksForProperty [property.fieldType] property source name) : Asks entity source name
  | navigation {navigation : NavigationProperty} {source : ImportSource} {name : String}
      (member : navigation ∈ entity.navigation)
      (asks : AsksForNavigation entity navigation source name) : Asks entity source name

theorem holds_imports {entity : Entity} :
    (imports entity).Holds source name ↔ Asks entity source name := by
  have properties : ∀ gathered property source name,
      (importProperty gathered property).Holds source name ↔
        gathered.Holds source name ∨ AsksForProperty [property.fieldType] property source name :=
    fun _ property _ _ => holds_importProperty [property.fieldType]
  have navigation : ∀ gathered navigation source name,
      (importNavigation entity gathered navigation).Holds source name ↔
        gathered.Holds source name ∨ AsksForNavigation entity navigation source name :=
    fun _ _ _ _ => holds_importNavigation
  rw [EntityFile.imports, Imports.holds_foldl navigation, Imports.holds_foldl properties,
    Imports.holds_value, Imports.holds_values]
  constructor
  · rintro ((((asked | ⟨rfl, isName⟩) | ⟨rfl, rfl⟩) | ⟨property, member, asks⟩) |
      ⟨navigation, member, asks⟩)
    · exact (Imports.not_holds_none asked).elim
    · exact .runtime isName
    · exact .requestBuilder
    · exact .property member asks
    · exact .navigation member asks
  · intro asks
    cases asks with
    | runtime isName => exact .inl (.inl (.inl (.inr ⟨rfl, isName⟩)))
    | requestBuilder => exact .inl (.inl (.inr ⟨rfl, rfl⟩))
    | property member asks => exact .inl (.inr ⟨_, member, asks⟩)
    | navigation member asks => exact .inr ⟨_, member, asks⟩

end EntityFile

namespace RequestBuilderFile

/-- What every file of a request builder needs of the runtime. -/
def needed : List String :=
  ["CreateRequestBuilder", "DeleteRequestBuilder", "GetAllRequestBuilder",
    "GetByKeyRequestBuilder", "RequestBuilder", "UpdateRequestBuilder"]

/-- What the file of a request builder asks for. -/
inductive Asks (entity : Entity) : ImportSource → String → Prop
  | runtime {name : String} (isName : name ∈ needed) : Asks entity ⟨coreModule, false⟩ name
  | entityClass : Asks entity ⟨siblingModule entity.className, false⟩ entity.className
  | key {key : Property} {source : ImportSource} {name : String} (member : key ∈ entity.keys)
      (asks : AsksForValues key.targetType source name) : Asks entity source name

theorem holds_imports {entity : Entity} :
    (imports entity).Holds source name ↔ Asks entity source name := by
  have keys : ∀ (gathered : Imports) (key : Property) source name,
      (importValueType gathered key.targetType).Holds source name ↔
        gathered.Holds source name ∨ AsksForValues key.targetType source name :=
    fun _ _ _ _ => holds_importValueType
  rw [RequestBuilderFile.imports, Imports.holds_value, Imports.holds_foldl keys,
    Imports.holds_values]
  constructor
  · rintro (((asked | ⟨rfl, isName⟩) | ⟨key, member, asks⟩) | ⟨rfl, rfl⟩)
    · exact (Imports.not_holds_none asked).elim
    · exact .runtime isName
    · exact .key member asks
    · exact .entityClass
  · intro asks
    cases asks with
    | runtime isName => exact .inl (.inl (.inr ⟨rfl, isName⟩))
    | entityClass => exact .inr ⟨rfl, rfl⟩
    | key member asks => exact .inl (.inr ⟨_, member, asks⟩)

end RequestBuilderFile

namespace ComplexTypeFile

/-- What every file of a complex type needs of the runtime. -/
def needed : List String := ["ComplexTypeField", "Entity", "FieldType", "createComplexType"]

/-- What the file of a complex type asks for. -/
inductive Asks (type : ComplexType) : ImportSource → String → Prop
  | runtime {name : String} (isName : name ∈ needed) : Asks type ⟨coreModule, false⟩ name
  | property {property : Property} {source : ImportSource} {name : String}
      (member : property ∈ type.properties)
      (asks : AsksForProperty ["edmToTs", complexPropertyFieldType property.fieldType] property
        source name) : Asks type source name

theorem holds_imports {type : ComplexType} :
    (imports type).Holds source name ↔ Asks type source name := by
  have properties : ∀ gathered property source name,
      (importProperty gathered property).Holds source name ↔ gathered.Holds source name ∨
        AsksForProperty ["edmToTs", complexPropertyFieldType property.fieldType] property
          source name :=
    fun _ property _ _ =>
      holds_importProperty ["edmToTs", complexPropertyFieldType property.fieldType]
  rw [ComplexTypeFile.imports, Imports.holds_foldl properties, Imports.holds_values]
  constructor
  · rintro ((asked | ⟨rfl, isName⟩) | ⟨property, member, asks⟩)
    · exact (Imports.not_holds_none asked).elim
    · exact .runtime isName
    · exact .property member asks
  · intro asks
    cases asks with
    | runtime isName => exact .inl (.inr ⟨rfl, isName⟩)
    | property member asks => exact .inr ⟨_, member, asks⟩

end ComplexTypeFile

namespace FunctionImportsFile

/-- What is asked for on behalf of a result. -/
inductive AsksForResult : Service.Result → ImportSource → String → Prop
  | transformer (result : Service.Result) :
      AsksForResult result ⟨coreModule, false⟩ (transformer result)
  | conversion (edmType targetType builderFunction : String) (isMulti : Bool) :
      AsksForResult (.primitive edmType targetType builderFunction isMulti) ⟨coreModule, false⟩
        "edmToTs"
  | values {edmType targetType builderFunction : String} {isMulti : Bool} {source : ImportSource}
      {name : String} (asks : AsksForValues targetType source name) :
      AsksForResult (.primitive edmType targetType builderFunction isMulti) source name
  | entity (className : String) (isMulti : Bool) :
      AsksForResult (.entity className isMulti) ⟨siblingModule className, false⟩ className
  | complex (typeName factoryName builderFunction : String) (isMulti : Bool) :
      AsksForResult (.complex typeName factoryName builderFunction isMulti)
        ⟨siblingModule typeName, false⟩ typeName

theorem holds_importResult {result : Service.Result} :
    (importResult gathered result).Holds source name ↔
      gathered.Holds source name ∨ AsksForResult result source name := by
  unfold importResult
  cases result with
  | void =>
      rw [Imports.holds_value]
      refine or_congr_right ⟨?_, ?_⟩
      · rintro ⟨rfl, rfl⟩
        exact .transformer _
      · rintro ⟨⟩
        exact ⟨rfl, rfl⟩
  | primitive =>
      rw [holds_importValueType, Imports.holds_value, Imports.holds_value, or_assoc, or_assoc]
      refine or_congr_right ⟨?_, ?_⟩
      · rintro (⟨rfl, rfl⟩ | ⟨rfl, rfl⟩ | asks)
        · exact .transformer _
        · exact .conversion ..
        · exact .values asks
      · intro asks
        cases asks with
        | transformer => exact .inl ⟨rfl, rfl⟩
        | conversion => exact .inr (.inl ⟨rfl, rfl⟩)
        | values asks => exact .inr (.inr asks)
  | entity =>
      rw [Imports.holds_value, Imports.holds_value, or_assoc]
      refine or_congr_right ⟨?_, ?_⟩
      · rintro (⟨rfl, rfl⟩ | ⟨rfl, rfl⟩)
        · exact .transformer _
        · exact .entity ..
      · intro asks
        cases asks with
        | transformer => exact .inl ⟨rfl, rfl⟩
        | entity => exact .inr ⟨rfl, rfl⟩
  | complex =>
      rw [Imports.holds_value, Imports.holds_value, or_assoc]
      refine or_congr_right ⟨?_, ?_⟩
      · rintro (⟨rfl, rfl⟩ | ⟨rfl, rfl⟩)
        · exact .transformer _
        · exact .complex ..
      · intro asks
        cases asks with
        | transformer => exact .inl ⟨rfl, rfl⟩
        | complex => exact .inr ⟨rfl, rfl⟩

/-- What is asked for on behalf of a function import. -/
inductive AsksForFunction (function : FunctionImport) : ImportSource → String → Prop
  | parameters (present : function.parameters ≠ []) :
      AsksForFunction function ⟨coreModule, false⟩ "FunctionImportParameter"
  | values {parameter : Service.Parameter} {source : ImportSource} {name : String}
      (member : parameter ∈ function.parameters)
      (asks : AsksForValues parameter.targetType source name) :
      AsksForFunction function source name
  | result {source : ImportSource} {name : String}
      (asks : AsksForResult function.result source name) : AsksForFunction function source name

theorem holds_importFunction {function : FunctionImport} :
    (importFunction gathered function).Holds source name ↔
      gathered.Holds source name ∨ AsksForFunction function source name := by
  have values : ∀ (gathered : Imports) (parameter : Service.Parameter) source name,
      (importValueType gathered parameter.targetType).Holds source name ↔
        gathered.Holds source name ∨ AsksForValues parameter.targetType source name :=
    fun _ _ _ _ => holds_importValueType
  have parameters : (if function.parameters.isEmpty then gathered
      else gathered.value coreModule "FunctionImportParameter").Holds source name ↔
        gathered.Holds source name ∨ function.parameters ≠ [] ∧ source = ⟨coreModule, false⟩ ∧
          name = "FunctionImportParameter" := by
    split
    · next absent => simp [List.isEmpty_iff.1 absent]
    · next present =>
      rw [Imports.holds_value]
      simp [List.isEmpty_iff.not.1 present]
  rw [importFunction, holds_importResult, Imports.holds_foldl values, parameters, or_assoc,
    or_assoc]
  refine or_congr_right ⟨?_, ?_⟩
  · rintro (⟨present, rfl, rfl⟩ | ⟨parameter, member, asks⟩ | asks)
    · exact .parameters present
    · exact .values member asks
    · exact .result asks
  · intro asks
    cases asks with
    | parameters present => exact .inl ⟨present, rfl, rfl⟩
    | values member asks => exact .inr (.inl ⟨_, member, asks⟩)
    | result asks => exact .inr (.inr asks)

/-- What the file of function imports asks for. -/
inductive Asks (service : Service) : ImportSource → String → Prop
  | requestBuilder : Asks service ⟨coreModule, false⟩ "FunctionImportRequestBuilder"
  | function {function : FunctionImport} {source : ImportSource} {name : String}
      (member : function ∈ service.functionImports)
      (asks : AsksForFunction function source name) : Asks service source name

theorem holds_imports {service : Service} :
    (service.functionImports.foldl importFunction
      (Imports.none.value coreModule "FunctionImportRequestBuilder")).Holds source name ↔
        Asks service source name := by
  have functions : ∀ gathered function source name,
      (importFunction gathered function).Holds source name ↔
        gathered.Holds source name ∨ AsksForFunction function source name :=
    fun _ _ _ _ => holds_importFunction
  rw [Imports.holds_foldl functions, Imports.holds_value]
  constructor
  · rintro ((asked | ⟨rfl, rfl⟩) | ⟨function, member, asks⟩)
    · exact (Imports.not_holds_none asked).elim
    · exact .requestBuilder
    · exact .function member asks
  · intro asks
    cases asks with
    | requestBuilder => exact .inl (.inr ⟨rfl, rfl⟩)
    | function member asks => exact .inr ⟨_, member, asks⟩

end FunctionImportsFile

end ODataClient.TypeScript
