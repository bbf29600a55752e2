import ODataClient.Proofs.TypeScript.ModuleNames
import ODataClient.Proofs.TypeScript.Requests
import ODataClient.Proofs.TypeScript.TypeNames
import ODataClient.Proofs.TypeScript.Typing

/-!
# Types that files mention

The types that each kind of file declares things with, put together from the names of a service and
of its runtime. Whatever is known of the names that a file asks for and declares itself is known of
all names in these types. Only the complex types of key properties are not asked for where the
methods of a request builder take them as parameters.
-/

namespace ODataClient.TypeScript

open Unicode
open Code (ImportSource)
open Service (Entity ComplexType Property NavigationProperty FunctionImport)

variable {service : Service} {entity : Entity} {type : ComplexType} {property : Property}
  {navigation : NavigationProperty} {function : FunctionImport} {file : SourceFile}
  {name text value : String}

section Spelling

variable (spelled : IsSpelled service)

include spelled

theorem isNameText_own (isOwn : name ∈ ownFileNames service) : IsNameText name.toList :=
  spelled name (typeNames_eq ▸ List.mem_append_left _ isOwn)

theorem isNameText_suffixed (suffix : Suffix) (isOwn : name ∈ ownFileNames service) :
    IsNameText (name ++ suffix.text).toList := by
  rw [String.toList_append]
  refine (isNameText_own spelled isOwn).append ?_
  cases suffix <;> decide

end Spelling

/-- Whether the words of the language are known. They begin with a small letter, as no type of a
service or of its runtime does. -/
def HasWords (known : String → Prop) : Prop :=
  ∀ name, ¬ BeginsNotSmall name.toList → known name

section Types

variable {known : String → Prop} (words : HasWords known)

include words

theorem covers_words (small : ∀ name ∈ namesIn text,
    (name.toList.head?.any fun c => 97 ≤ c.toNat && c.toNat ≤ 122) = true) : Covers known text :=
  fun name member => words name (not_beginsOutside (small name member))

theorem covers_dictionaryType (key : String)
    (opens : Covers known ("\x7b [" ++ key ++ ": string]: ")) (covered : Covers known value) :
    Covers known (dictionaryType key value) := by
  have closes : Covers known " \x7d" := covers_words words (by decide)
  have ends : EndsApart ("\x7b [" ++ key ++ ": string]: ") := EndsApart.append (by decide)
  exact (opens.append covered (.inl ends)).append closes (.inr (by decide))

theorem Covers.list (covered : Covers known text) : Covers known (text ++ "[]") :=
  covered.append (covers_words words (by decide)) (.inr (by decide))

/-- Types of primitive values are built in, or else asked for. -/
theorem covers_targetType {type : EdmType} (isTarget : text = targetType type)
    (asks : ∀ source name, AsksForValues text source name → known name) : Covers known text := by
  subst isTarget
  have imported : (∃ module, typeModule? (targetType type) = some module) ∨
      ¬ BeginsNotSmall (targetType type).toList := by
    cases type <;> first
      | exact .inl ⟨_, rfl⟩
      | exact .inr (not_beginsOutside (by decide))
  have isName : IsNameText (targetType type).toList := by
    cases type <;> decide
  refine covers_name isName ?_
  rcases imported with ⟨module, found⟩ | isWord
  · exact asks _ _ (.mk found)
  · exact words _ isWord

end Types

section Properties

variable {needed : List String} {known : String → Prop} (words : HasWords known)
  (spelled : IsSpelled service) (typed : IsTypedModel service)
  (wellTyped : IsWellTyped service.complexTypes property)
  (asks : ∀ source name, AsksForProperty needed property source name → known name)

include spelled typed wellTyped asks

/-- A complex property brings its type and the class that describes its fields into scope. -/
theorem covers_complexProperty (isComplex : property.isComplex = true) :
    Covers known property.targetType ∧ Covers known property.fieldType := by
  have isKnown : ∀ name ∈ [property.targetType, property.fieldType], known name :=
    fun name isName => asks _ name (.complex isComplex isName)
  obtain ⟨type, member, typeName, fieldType⟩ := wellTyped.complex isComplex
  rw [typed.fieldTypes type member] at fieldType
  rw [← typeName, ← fieldType] at isKnown ⊢
  have isOwn := typeName_mem_ownFileNames member
  exact ⟨covers_name (isNameText_own spelled isOwn) (isKnown _ (by simp)),
    covers_name (isNameText_suffixed spelled .field isOwn) (isKnown _ (by simp))⟩

include words

theorem covers_property : Covers known property.targetType := by
  cases isComplex : property.isComplex with
  | true => exact (covers_complexProperty spelled typed wellTyped asks isComplex).1
  | false =>
      obtain ⟨type, isTarget, -⟩ := wellTyped.primitive isComplex
      exact covers_targetType words isTarget fun source name asked =>
        asks source name (.values isComplex asked)

end Properties

namespace EntityFile

/-- Whether the types that the file of an entity is put together from are known. -/
structure CoversParts (known : String → Prop) (entity : Entity) : Prop where
  words : HasWords known
  runtime : ∀ name ∈ needed, known name
  className : Covers known entity.className
  interface : Covers known (interfaceOf entity.className)
  requestBuilder : Covers known (requestBuilderClass entity)
  targetTypes : ∀ property ∈ entity.properties, Covers known property.targetType
  fieldTypes : ∀ property ∈ entity.properties, Covers known property.fieldType
  linkTypes : ∀ navigation ∈ entity.navigation, Covers known (linkType navigation)
  targets : ∀ navigation ∈ entity.navigation, Covers known navigation.targetClass
  interfaces : ∀ navigation ∈ entity.navigation, Covers known (interfaceOf navigation.targetClass)

section Parts

variable {known : String → Prop} (parts : CoversParts known entity)

include parts

theorem covers_runtime (isNeeded : ∀ name ∈ namesIn text, name ∈ needed) : Covers known text :=
  fun name member => parts.runtime name (isNeeded name member)

theorem covers_navigationField (member : navigation ∈ entity.navigation) :
    ∀ type ∈ (navigationField navigation).type, Covers known type := by
  have covered := parts.targets navigation member
  unfold navigationField
  cases navigation.cardinality with
  | many =>
      rintro _ ⟨⟩
      exact covered.list parts.words
  | one =>
      rintro _ ⟨⟩
      exact covered

theorem covers_methods {method : Method} (member : method ∈ methods entity) :
    ∀ type ∈ signatureTypes method.parameters method.result, Covers known type := by
  have keys : Covers known (dictionaryType "key" "any") :=
    covers_dictionaryType parts.words "key" (covers_words parts.words (by decide))
      (covers_words parts.words (by decide))
  have builder : Covers known
      ("EntityBuilderType<" ++ entity.className ++ ", " ++ interfaceOf entity.className ++ ">") :=
    (covers_runtime parts (by decide)).enclosedPair (by decide)
      parts.className parts.interface
  have customField : Covers known ("CustomField<" ++ entity.className ++ ">") :=
    (covers_runtime parts (by decide)).enclosed (by decide)
      parts.className
  simp only [methods, List.mem_cons, List.not_mem_nil, or_false] at member
  rcases member with rfl | rfl | rfl | rfl
  · exact List.forall_mem_singleton.2 keys
  · exact List.forall_mem_singleton.2 builder
  · exact List.forall_mem_singleton.2 parts.requestBuilder
  · have string : Covers known "string" := covers_words parts.words (by decide)
    exact List.forall_mem_cons.2 ⟨string, List.forall_mem_singleton.2 customField⟩

theorem covered_classDeclaration :
    (Statement.classDeclaration (classDeclaration service entity)).Covered known := by
  refine covered_plainClass rfl ?_ ?_ ?_
  · rintro _ ⟨⟩
    exact covers_runtime parts (by decide)
  · exact List.forall_mem_singleton.2 parts.interface
  · intro member isMember
    rcases List.mem_append.1 isMember with inFields | inMethods
    · obtain ⟨field, isField, rfl⟩ := List.mem_map.1 inFields
      refine fun type isType => ?_
      rcases List.mem_append.1 isField with inOwn | inNavigation
      · rcases List.mem_append.1 inOwn with isTechnical | inProperties
        · have untyped : ∀ field ∈ technicalFields service entity, field.type = none := by
            simp [technicalFields]
          simp [Member.types, untyped field isTechnical] at isType
        · obtain ⟨property, isProperty, rfl⟩ := List.mem_map.1 inProperties
          obtain rfl := List.mem_singleton.1 isType
          exact parts.targetTypes property isProperty
      · obtain ⟨navigation, isNavigation, rfl⟩ := List.mem_map.1 inNavigation
        exact covers_navigationField parts isNavigation type (Option.mem_toList.1 isType)
    · obtain ⟨method, isMethod, rfl⟩ := List.mem_map.1 inMethods
      exact covers_methods parts isMethod

theorem covered_interfaceDeclaration :
    (Statement.interfaceDeclaration (interfaceDeclaration entity)).Covered known := by
  refine covered_interface fun field member => ?_
  rcases List.mem_append.1 member with inProperties | inNavigation
  · obtain ⟨property, isProperty, rfl⟩ := List.mem_map.1 inProperties
    exact parts.targetTypes property isProperty
  · obtain ⟨navigation, isNavigation, rfl⟩ := List.mem_map.1 inNavigation
    have covered := parts.interfaces navigation isNavigation
    unfold navigationInterfaceField
    split
    · exact covered.list parts.words
    · exact covered

theorem covers_propertyDescriptorType (member : property ∈ entity.properties) :
    Covers known (propertyDescriptorType entity property) := by
  have opens : Covers known (property.fieldType ++ "<") :=
    (parts.fieldTypes property member).append (covers_words parts.words (by decide))
      (.inr (by decide))
  exact opens.enclosed (EndsApart.append (by decide)) parts.className

theorem covers_linkDescriptorType (member : navigation ∈ entity.navigation) :
    Covers known (linkDescriptorType entity navigation) := by
  have opens : Covers known (linkType navigation ++ "<") :=
    (parts.linkTypes navigation member).append (covers_words parts.words (by decide))
      (.inr (by decide))
  exact opens.enclosedPair (EndsApart.append (by decide)) parts.className
    (parts.targets navigation member)

theorem covers_memberLists {constant : Constant} (member : constant ∈ memberLists entity) :
    ∀ type ∈ constant.type, Covers known type := by
  have selectable : Covers known ("Selectable<" ++ entity.className ++ ">") :=
    (covers_runtime parts (by decide)).enclosed (by decide)
      parts.className
  have allFields : Covers known ("AllFields<" ++ entity.className ++ ">") :=
    (covers_runtime parts (by decide)).enclosed (by decide)
      parts.className
  have arrayOf {text : String} (covered : Covers known text) :
      Covers known ("Array<" ++ text ++ ">") :=
    (covers_punctuation (by decide)).enclosed (by decide) covered
  have descriptors : ∀ type ∈ entity.properties.map (propertyDescriptorType entity) ++
      entity.navigation.map (linkDescriptorType entity), Covers known type := by
    intro type member
    rcases List.mem_append.1 member with inProperties | inNavigation
    · obtain ⟨property, isProperty, rfl⟩ := List.mem_map.1 inProperties
      exact covers_propertyDescriptorType parts isProperty
    · obtain ⟨navigation, isNavigation, rfl⟩ := List.mem_map.1 inNavigation
      exact covers_linkDescriptorType parts isNavigation
  have keys := covers_dictionaryType parts.words "keys" (covers_words parts.words (by decide))
    selectable
  simp only [memberLists, List.mem_cons, List.not_mem_nil, or_false] at member
  rcases member with rfl | rfl | rfl | rfl
  · rintro _ ⟨⟩
    refine arrayOf ?_
    split
    · exact selectable
    · exact covers_unionType descriptors
  · rintro _ ⟨⟩
    exact allFields
  · rintro _ ⟨⟩
    exact arrayOf selectable
  · rintro _ ⟨⟩
    exact keys

theorem covered_namespaceBody {body : List Statement} (made : namespaceBody entity = .ok body) :
    ∀ statement ∈ body, statement.Covered known := by
  obtain ⟨constants, described, made⟩ := Outcome.bind_eq_ok_iff.1 made
  cases made
  intro statement member
  obtain ⟨constant, isConstant, rfl⟩ := List.mem_map.1 member
  refine covered_constant ?_
  rcases List.mem_append.1 isConstant with isDescriptor | isList
  · rcases List.mem_append.1 isDescriptor with inProperties | inNavigation
    · obtain ⟨property, isProperty, described⟩ :=
        (Outcome.mapM_eq_ok_iff.1 described).exists_of_mem_right inProperties
      rw [(propertyDescriptor_eq_ok described).2]
      rintro _ ⟨⟩
      exact covers_propertyDescriptorType parts isProperty
    · obtain ⟨navigation, isNavigation, rfl⟩ := List.mem_map.1 inNavigation
      rintro _ ⟨⟩
      exact covers_linkDescriptorType parts isNavigation
  · exact covers_memberLists parts isList

end Parts

/-- What the file of an entity asks for and declares covers all parts of it. -/
theorem coversParts {known : String → Prop} (spelled : IsSpelled service)
    (typed : IsTypedModel service) (member : entity ∈ service.entities) (words : HasWords known)
    (asks : ∀ source name, Asks entity source name → known name)
    (ownClass : known entity.className) (ownInterface : known (interfaceOf entity.className)) :
    CoversParts known entity := by
  have isOwn := className_mem_ownFileNames member
  have wellTyped := typed.entityProperties entity member
  have propertyAsks : ∀ property ∈ entity.properties, ∀ source name,
      AsksForProperty [property.fieldType] property source name → known name :=
    fun property isProperty source name asked => asks source name (.property isProperty asked)
  have navigationAsks : ∀ navigation ∈ entity.navigation, ∀ source name,
      AsksForNavigation entity navigation source name → known name :=
    fun navigation isNavigation source name asked =>
      asks source name (.navigation isNavigation asked)
  constructor
  · exact words
  · exact fun name isName => asks _ name (.runtime isName)
  · exact covers_name (isNameText_own spelled isOwn) ownClass
  · exact covers_name (isNameText_suffixed spelled .interface isOwn) ownInterface
  · exact covers_name (isNameText_suffixed spelled .requestBuilder isOwn)
      (asks _ _ .requestBuilder)
  · exact fun property isProperty => covers_property words spelled typed
      (wellTyped property isProperty) (propertyAsks property isProperty)
  · intro property isProperty
    cases isComplex : property.isComplex with
    | true =>
        exact (covers_complexProperty spelled typed (wellTyped property isProperty)
          (propertyAsks property isProperty) isComplex).2
    | false =>
        obtain ⟨type, -, isField⟩ := (wellTyped property isProperty).primitive isComplex
        have isName : IsNameText property.fieldType.toList := by
          rw [isField]
          cases type <;> decide
        exact covers_name isName (propertyAsks property isProperty _ _
          (.runtime isComplex List.mem_cons_self))
  · intro navigation isNavigation
    have isName : IsNameText (linkType navigation).toList := by
      unfold linkType
      split <;> decide
    exact covers_name isName (navigationAsks navigation isNavigation _ _ .link)
  -- A file does not ask for what it declares itself, which is where a link leads back to its class.
  · intro navigation isNavigation
    obtain ⟨target, isTarget, leads⟩ := typed.navigation entity member navigation isNavigation
    refine covers_name
      (leads ▸ isNameText_own spelled (className_mem_ownFileNames isTarget)) ?_
    by_cases own : navigation.targetClass = entity.className
    · exact own ▸ ownClass
    · exact navigationAsks navigation isNavigation _ _ (.target own)
  · intro navigation isNavigation
    obtain ⟨target, isTarget, leads⟩ := typed.navigation entity member navigation isNavigation
    refine covers_name (leads ▸ isNameText_suffixed spelled .interface
      (className_mem_ownFileNames isTarget)) ?_
    by_cases own : navigation.targetClass = entity.className
    · exact own ▸ ownInterface
    · exact navigationAsks navigation isNavigation _ _ (.interface own)

end EntityFile

namespace RequestBuilderFile

section Parts

variable {known : String → Prop} (runtime : ∀ name ∈ needed, known name)
  (className : Covers known entity.className)
  (keys : ∀ key ∈ entity.keys, Covers known key.targetType)

include runtime className

/-- Methods start requests of one kind, which the runtime has a builder for. -/
theorem covers_method {name doc outcome kind arguments : String} {parameters : List Parameter}
    (isKind : kind ∈ ["GetByKey", "GetAll", "Create", "Update", "Delete"])
    (covered : ∀ parameter ∈ parameters, Covers known parameter.type) :
    ∀ type ∈ (Member.method (method entity name doc outcome kind arguments parameters)).types,
      Covers known type := by
  have builders : ∀ kind ∈ ["GetByKey", "GetAll", "Create", "Update", "Delete"],
      namesIn (kind ++ "RequestBuilder<") = [kind ++ "RequestBuilder"] ∧
        kind ++ "RequestBuilder" ∈ needed := by
    decide +kernel
  obtain ⟨read, isName⟩ := builders kind isKind
  have opens : Covers known (kind ++ "RequestBuilder<") :=
    covers_of_namesIn read (List.forall_mem_singleton.2 (runtime _ isName))
  intro type member
  rcases List.mem_append.1 member with inParameters | isResult
  · obtain ⟨parameter, isParameter, rfl⟩ := List.mem_map.1 inParameters
    exact covered parameter isParameter
  · obtain rfl := List.mem_singleton.1 isResult
    exact opens.enclosed (EndsApart.append (by decide)) className

include keys

theorem covered_classDeclaration :
    (Statement.classDeclaration (classDeclaration entity)).Covered known := by
  have keyParameters : ∀ parameter ∈ keyParameters entity, Covers known parameter.type := by
    intro parameter member
    obtain ⟨key, isKey, rfl⟩ := List.mem_map.1 member
    exact keys key isKey
  refine covered_plainClass rfl ?_ (by simp [classDeclaration]) ?_
  · rintro _ ⟨⟩
    have opens : Covers known "RequestBuilder<" :=
      covers_of_namesIn rfl (List.forall_mem_singleton.2 (runtime "RequestBuilder" (by decide)))
    exact opens.enclosed (by decide) className
  · simp only [classDeclaration, methods, List.map_cons, List.map_nil, List.forall_mem_cons]
    have own : ∀ parameter ∈ ([{ name := "entity", type := entity.className }] : List Parameter),
        Covers known parameter.type :=
      List.forall_mem_singleton.2 className
    exact ⟨covers_method runtime className (by decide) keyParameters,
      covers_method runtime className (by decide) (by simp),
      covers_method runtime className (by decide) own,
      covers_method runtime className (by decide) own,
      covers_method runtime className (by decide) keyParameters, by simp⟩

end Parts

end RequestBuilderFile

namespace ComplexTypeFile

/-- Whether the types that the file of a complex type is put together from are known. -/
structure CoversParts (known : String → Prop) (type : ComplexType) : Prop where
  words : HasWords known
  runtime : ∀ name ∈ needed, known name
  typeName : Covers known type.typeName
  targetTypes : ∀ property ∈ type.properties, Covers known property.targetType
  descriptors : ∀ property ∈ type.properties, property.isComplex = true →
    Covers known property.fieldType
  plainDescriptors : ∀ property ∈ type.properties, property.isComplex = false →
    Covers known (complexPropertyFieldType property.fieldType)

section Parts

variable {known : String → Prop} (parts : CoversParts known type)

include parts

theorem covered_interfaceDeclaration :
    (Statement.interfaceDeclaration (interfaceDeclaration type)).Covered known := by
  refine covered_interface fun field member => ?_
  obtain ⟨property, isProperty, rfl⟩ := List.mem_map.1 member
  exact parts.targetTypes property isProperty

theorem covers_descriptor {field : Field} (member : property ∈ type.properties)
    (made : descriptor type property = .ok field) :
    ∀ text ∈ field.type, Covers (fun name => known name ∨ name = "EntityT") text := by
  have parameter : Covers (fun name => known name ∨ name = "EntityT") "<EntityT>" :=
    covers_of_namesIn rfl (List.forall_mem_singleton.2 (.inr rfl))
  have described {describing : String} (covered : Covers known describing) :
      Covers (fun name => known name ∨ name = "EntityT") (describing ++ "<EntityT>") :=
    Covers.append (fun name inClass => .inl (covered name inClass)) parameter (.inr (by decide))
  unfold descriptor at made
  dsimp only at made
  split at made
  · next isComplex =>
    cases made
    rintro _ ⟨⟩
    exact described (parts.descriptors property member isComplex)
  · next isPrimitive =>
    obtain ⟨edmType, -, made⟩ := Outcome.bind_eq_ok_iff.1 made
    cases made
    rintro _ ⟨⟩
    exact described (parts.plainDescriptors property member (by simpa using isPrimitive))

theorem covered_fieldClass {declaration : Class} (made : fieldClass type = .ok declaration) :
    (Statement.classDeclaration declaration).Covered known := by
  obtain ⟨fields, described, made⟩ := Outcome.bind_eq_ok_iff.1 made
  have parameter : declaration.typeParameter? = some "EntityT" := by
    cases made
    rfl
  have types : declaration.types = "EntityT extends Entity" :: "ComplexTypeField<EntityT>" ::
      (fields.map Member.field).flatMap Member.types := by
    cases made
    rfl
  refine covered_class ?_
  simp only [parameter, Option.mem_some_iff, types, List.forall_mem_cons]
  refine ⟨?_, ?_, fun text member => ?_⟩
  · have read : namesIn "EntityT extends Entity" = ["EntityT", "extends", "Entity"] := rfl
    refine covers_of_namesIn read ?_
    simp only [List.forall_mem_cons]
    exact ⟨.inr trivial, .inl (parts.words _ (not_beginsOutside (by decide))),
      .inl (parts.runtime _ (by decide)), by simp⟩
  · have read : namesIn "ComplexTypeField<EntityT>" = ["ComplexTypeField", "EntityT"] := rfl
    refine covers_of_namesIn read ?_
    simp only [List.forall_mem_cons]
    exact ⟨.inl (parts.runtime _ (by decide)), .inr trivial, by simp⟩
  · obtain ⟨member, isMember, inMember⟩ := List.mem_flatMap.1 member
    obtain ⟨field, isField, rfl⟩ := List.mem_map.1 isMember
    obtain ⟨property, isProperty, made⟩ :=
      (Outcome.mapM_eq_ok_iff.1 described).exists_of_mem_right isField
    have covered := covers_descriptor parts isProperty made text (Option.mem_toList.1 inMember)
    exact fun name isName => (covered name isName).imp_right Eq.symm

theorem covered_buildFunction {declaration : Function}
    (made : buildFunction type = .ok declaration) :
    (Statement.functionDeclaration declaration).Covered known := by
  obtain ⟨entries, -, made⟩ := Outcome.bind_eq_ok_iff.1 made
  cases made
  refine covered_function (List.forall_mem_cons.2 ⟨?_, List.forall_mem_singleton.2 parts.typeName⟩)
  refine covers_dictionaryType parts.words "keys" (covers_words parts.words (by decide)) ?_
  refine covers_unionType (List.forall_mem_cons.2 ⟨?_, fun text member => ?_⟩)
  · exact covers_of_namesIn rfl
      (List.forall_mem_singleton.2 (parts.runtime "FieldType" (by decide)))
  · obtain ⟨property, isNested, rfl⟩ := List.mem_map.1 member
    exact parts.targetTypes property (List.mem_filter.1 isNested).1

end Parts

/-- What the file of a complex type asks for and declares covers all parts of it. -/
theorem coversParts {known : String → Prop} (spelled : IsSpelled service)
    (typed : IsTypedModel service) (member : type ∈ service.complexTypes) (words : HasWords known)
    (asks : ∀ source name, Asks type source name → known name) (ownType : known type.typeName) :
    CoversParts known type := by
  have wellTyped := typed.complexProperties type member
  have propertyAsks : ∀ property ∈ type.properties, ∀ source name,
      AsksForProperty ["edmToTs", complexPropertyFieldType property.fieldType] property source
        name → known name :=
    fun property isProperty source name asked => asks source name (.property isProperty asked)
  constructor
  · exact words
  · exact fun name isName => asks _ name (.runtime isName)
  · exact covers_name (isNameText_own spelled (typeName_mem_ownFileNames member)) ownType
  · exact fun property isProperty => covers_property words spelled typed
      (wellTyped property isProperty) (propertyAsks property isProperty)
  · exact fun property isProperty isComplex => (covers_complexProperty spelled typed
      (wellTyped property isProperty) (propertyAsks property isProperty) isComplex).2
  · intro property isProperty isPrimitive
    obtain ⟨type, -, isField⟩ := (wellTyped property isProperty).primitive isPrimitive
    have isName : IsNameText (complexPropertyFieldType property.fieldType).toList := by
      rw [isField]
      cases type <;> decide +kernel
    exact covers_name isName (propertyAsks property isProperty _ _
      (.runtime isPrimitive (by simp)))

end ComplexTypeFile

namespace FunctionImportsFile

section Parts

variable {known : String → Prop} (words : HasWords known)

include words

theorem covered_parametersInterface (typed : IsTypedModel service)
    (member : function ∈ service.functionImports)
    (asks : ∀ source name, AsksForFunction function source name → known name) :
    (Statement.interfaceDeclaration (parametersInterface function)).Covered known := by
  refine covered_interface fun field isField => ?_
  obtain ⟨parameter, isParameter, rfl⟩ := List.mem_map.1 isField
  obtain ⟨type, isTarget⟩ := typed.parameters function member parameter isParameter
  exact covers_targetType words isTarget fun source name asked =>
    asks source name (.values isParameter asked)

theorem covers_resultType (spelled : IsSpelled service) {result : Service.Result}
    (typed : IsTypedResult service result)
    (asks : ∀ source name, AsksForResult result source name → known name) :
    Covers known (resultType result) := by
  have covered : Covers known result.typeName := by
    cases typed with
    | void => exact covers_words words (by decide)
    | primitive =>
        exact covers_targetType words rfl fun source name asked => asks source name (.values asked)
    | complex member =>
        exact covers_name (isNameText_own spelled (typeName_mem_ownFileNames member))
          (asks _ _ (.complex ..))
    | entity member =>
        exact covers_name (isNameText_own spelled (className_mem_ownFileNames member))
          (asks _ _ (.entity ..))
  unfold resultType
  split
  · exact covered.list words
  · rwa [String.append_empty]

omit words in
theorem covered_requestFunction {request : Function}
    (made : requestFunction service function = .ok request)
    (builder : known "FunctionImportRequestBuilder")
    (parametersType : Covers known function.parametersTypeName)
    (result : Covers known (resultType function.result)) :
    (Statement.functionDeclaration request).Covered known := by
  obtain ⟨entries, -, made⟩ := Outcome.bind_eq_ok_iff.1 made
  cases made
  refine covered_function (List.forall_mem_cons.2 ⟨parametersType, List.forall_mem_singleton.2 ?_⟩)
  have opens : Covers known "FunctionImportRequestBuilder<" :=
    covers_of_namesIn rfl (List.forall_mem_singleton.2 builder)
  have covered := opens.enclosedPair (by decide) parametersType result
  change Covers known ("FunctionImportRequestBuilder<" ++
    (function.parametersTypeName ++ ", " ++ resultType function.result ++ ">"))
  simpa only [String.append_assoc] using covered

omit words in
/-- The file of function imports declares the interface of its parameters and a function for each,
and a constant. -/
theorem cases_of_mem_body {statement : Statement} (made : functionImportsFile service = .ok file)
    (member : statement ∈ file.body) :
    (∃ function ∈ service.functionImports,
      statement = .interfaceDeclaration (parametersInterface function) ∨
        ∃ request, requestFunction service function = .ok request ∧
          statement = .functionDeclaration request) ∨
      statement = .constantDeclaration (listing service) := by
  obtain ⟨groups, each, made⟩ := Outcome.bind_eq_ok_iff.1 made
  cases made
  rcases List.mem_append.1 member with inGroups | isListing
  · obtain ⟨group, isGroup, inGroup⟩ := List.mem_flatten.1 inGroups
    obtain ⟨function, isFunction, declared⟩ :=
      (Outcome.mapM_eq_ok_iff.1 each).exists_of_mem_right isGroup
    obtain ⟨request, asked, declared⟩ := Outcome.bind_eq_ok_iff.1 declared
    cases declared
    refine .inl ⟨function, isFunction, ?_⟩
    rcases List.mem_pair.1 inGroup with rfl | rfl
    · exact .inl rfl
    · exact .inr ⟨request, asked, rfl⟩
  · exact .inr (List.mem_singleton.1 isListing)

end Parts

end FunctionImportsFile

end ODataClient.TypeScript
