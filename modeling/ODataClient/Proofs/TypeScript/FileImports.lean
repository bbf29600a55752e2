import ODataClient.Proofs.Code.Imports
import ODataClient.Proofs.TypeScript.ModuleNames

/-!
# What the files of a package import

Files import from the libraries of the runtime and from one another. Where the names of a service
are kept apart from each other and from those of the runtime, every name comes from one module only,
and no file imports from itself.
-/

namespace ODataClient.TypeScript

open Unicode

variable {service : Service} {module place name : String} {names : List String}

/-- The functions of the runtime that the file of function imports needs. -/
def conversions : List String := [
    "edmToTs", "transformReturnValueForEdmType", "transformReturnValueForEdmTypeList",
    "transformReturnValueForEntity", "transformReturnValueForEntityList",
    "transformReturnValueForComplexType", "transformReturnValueForComplexTypeList",
    "transformReturnValueForUndefined"]

/-- What generated code imports from its runtime libraries. -/
def runtimeNames : List String := runtimeTypes ++ "createComplexType" :: conversions

/-- The library that a name of the runtime is imported from. -/
def runtimeModule (name : String) : String := (typeModule? name).getD coreModule

/-- What the registry does not see to where the runtime is concerned: no name of one of its types
has been derived from another type, and no function is named like what else the file of function
imports needs or declares. -/
structure RuntimeApart (service : Service) : Prop where
  derived : (derivedNames service).Disjoint runtimeTypes
  functions : service.functionNames.Disjoint ("functionImports" :: conversions)

instance : Decidable (RuntimeApart service) :=
  decidable_of_iff ((∀ name ∈ derivedNames service, name ∉ runtimeTypes) ∧
      ∀ name ∈ service.functionNames, name ∉ "functionImports" :: conversions)
    ⟨fun ⟨derived, functions⟩ => ⟨@derived, @functions⟩,
      fun apart => ⟨@apart.derived, @apart.functions⟩⟩

/-- The modules that names are imported from. -/
inductive Provides (service : Service) : String → String → Prop
  | runtime {name : String} (needed : name ∈ runtimeNames) :
      Provides service (runtimeModule name) name
  | sibling {module name : String} (declares : Declares service module name)
      (shared : name ∈ ownFileNames service ∨ name ∈ derivedNames service) :
      Provides service (siblingModule module) name

/-- A name that comes from another module than that of a file. -/
def IsElsewhere (service : Service) (place module name : String) : Prop :=
  Provides service module name ∧ module ≠ siblingModule place

theorem siblingModule_injective : Function.Injective siblingModule := by
  intro first second same
  exact (String.append_right_inj _).1 same

/-- The libraries of the runtime. -/
def libraries : List String := [coreModule, "bignumber.js", "moment"]

theorem runtimeModule_mem_libraries : runtimeModule name ∈ libraries := by
  unfold runtimeModule typeModule?
  split_ifs <;> decide

theorem siblingModule_notMem_libraries : siblingModule place ∉ libraries := by
  have notRelative : ∀ library ∈ libraries, library.toList.head? ≠ some '.' := by decide
  have isRelative : (siblingModule place).toList.head? = some '.' := by
    rw [siblingModule, String.toList_append]
    rfl
  exact fun isLibrary => notRelative _ isLibrary isRelative

theorem runtimeModule_ne_siblingModule : runtimeModule name ≠ siblingModule place :=
  fun same => siblingModule_notMem_libraries (same ▸ runtimeModule_mem_libraries)

theorem isElsewhere_runtime (needed : name ∈ runtimeNames) :
    IsElsewhere service place (runtimeModule name) name :=
  ⟨.runtime needed, runtimeModule_ne_siblingModule⟩

theorem isElsewhere_core (needed : name ∈ runtimeNames)
    (fromCore : runtimeModule name = coreModule) : IsElsewhere service place coreModule name :=
  fromCore ▸ isElsewhere_runtime needed

theorem isElsewhere_sibling (declares : Declares service module name)
    (shared : name ∈ ownFileNames service ∨ name ∈ derivedNames service) (differ : module ≠ place) :
    IsElsewhere service place (siblingModule module) name :=
  ⟨.sibling declares shared, fun same => differ (siblingModule_injective same)⟩

theorem isElsewhere_own (member : name ∈ ownFileNames service) (differ : name ≠ place) :
    IsElsewhere service place (siblingModule name) name :=
  isElsewhere_sibling (declares_of_mem_ownFileNames member) (.inl member) differ

theorem isElsewhere_derived (named : IsNamed service) (isDerived : IsDerived service module name)
    (differ : module ≠ place) : IsElsewhere service place (siblingModule module) name :=
  isElsewhere_sibling (isDerived.declares named)
    (.inr ((mem_derivedNames named).2 ⟨module, isDerived⟩)) differ

theorem conversions_beginSmall : ∀ name ∈ conversions, ¬ BeginsNotSmall name.toList := by
  have small : ∀ name ∈ conversions,
      (name.toList.head?.any fun c => 97 ≤ c.toNat && c.toNat ≤ 122) = true := by
    decide
  exact fun name member => not_beginsOutside (small name member)

theorem runtimeTypes_beginCapital : ∀ name ∈ runtimeTypes, ¬ BeginsNotCapital name.toList := by
  have capital : ∀ name ∈ runtimeTypes,
      (name.toList.head?.any fun c => 65 ≤ c.toNat && c.toNat ≤ 90) = true := by
    decide
  exact fun name member => not_beginsOutside (capital name member)

section Apart

variable (named : IsNamed service) (apart : NamesApart service) (runtime : RuntimeApart service)

include named runtime in
theorem notMem_runtimeNames
    (isOther : name ∈ ownFileNames service ∨ name ∈ derivedNames service) :
    name ∉ runtimeNames := by
  have begins := beginsNotSmall_of_shared named isOther
  intro needed
  rcases List.mem_append.1 needed with isType | isFunction
  · rcases isOther with isOwn | isDerived
    · exact named.runtime (typeNames_eq ▸ List.mem_append_left _ isOwn) isType
    · exact runtime.derived isDerived isType
  · rcases List.mem_cons.1 isFunction with rfl | isConversion
    · exact not_beginsOutside (by decide) begins
    · exact conversions_beginSmall name isConversion begins

include named apart runtime

/-- Every name is imported from one module only. -/
theorem Provides.module_eq {other : String} (first : Provides service module name)
    (second : Provides service other name) : module = other := by
  cases first with
  | runtime needed =>
      cases second with
      | runtime _ => rfl
      | sibling _ shared => exact (notMem_runtimeNames named runtime shared needed).elim
  | sibling declares shared =>
      cases second with
      | runtime needed => exact (notMem_runtimeNames named runtime shared needed).elim
      | sibling again _ => exact congrArg siblingModule (declares.module_eq named apart again)

/-- What a file imports from another is not declared in it too. -/
theorem IsElsewhere.not_declares (elsewhere : IsElsewhere service place module name)
    (isTypeFile : place ≠ FunctionImportsFile.fileName) : ¬ Declares service place name := by
  intro declares
  obtain ⟨provides, differ⟩ := elsewhere
  cases provides with
  | runtime needed =>
      rcases declares.cases named with ⟨-, isOwn⟩ | isDerived | ⟨isFile, -⟩
      · exact notMem_runtimeNames named runtime (.inl isOwn) needed
      · have derived := (mem_derivedNames named).2 ⟨place, isDerived⟩
        exact notMem_runtimeNames named runtime (.inr derived) needed
      · exact isTypeFile isFile
  | sibling there _ =>
      -- The name would be declared by two modules.
      exact differ (congrArg siblingModule (there.module_eq named apart declares))

omit apart in
/-- The file of function imports declares nothing that it needs of the runtime. -/
theorem notMem_functionFileNames_of_runtime
    (needed : name ∈ runtimeTypes ∨ name ∈ conversions) : name ∉ functionFileNames service := by
  rw [functionFileNames, List.mem_append, List.mem_append, List.mem_singleton]
  rintro ((isParameters | isFunction) | rfl)
  · have isTypeName : name ∈ service.typeNames :=
      typeNames_eq ▸ List.mem_append_right _ isParameters
    rcases needed with isType | isConversion
    · exact named.runtime isTypeName isType
    · exact conversions_beginSmall name isConversion (named.typesSpelled name isTypeName)
  · rcases needed with isType | isConversion
    · exact runtimeTypes_beginCapital name isType (named.functionsSpelled name isFunction)
    · exact runtime.functions isFunction (List.mem_cons_of_mem _ isConversion)
  · revert needed
    decide

end Apart

section Asked

variable {imports : Code.Imports} {allowed : String → String → Prop}

theorem typeModule?_eq_some (found : typeModule? name = some module) :
    name ∈ runtimeTypes ∧ runtimeModule name = module := by
  refine ⟨?_, by rw [runtimeModule, found, Option.getD_some]⟩
  unfold typeModule? at found
  split_ifs at found with isBigNumber isMoment isTime
  · exact isBigNumber ▸ by decide
  · exact isMoment ▸ by decide
  · exact isTime ▸ by decide

theorem collects_importValueType (collects : imports.Collects allowed)
    (runtime : ∀ name ∈ runtimeTypes, allowed (runtimeModule name) name) :
    (importValueType imports name).Collects allowed := by
  unfold importValueType
  split
  · next module found =>
    obtain ⟨needed, rfl⟩ := typeModule?_eq_some found
    exact collects.value (runtime name needed)
  · exact collects

theorem mem_runtimeNames_of_mem_runtimeTypes (needed : name ∈ runtimeTypes) :
    name ∈ runtimeNames :=
  List.mem_append_left _ needed

theorem collects_valueType (collects : imports.Collects (IsElsewhere service place)) :
    (importValueType imports name).Collects (IsElsewhere service place) :=
  collects_importValueType collects fun _ needed =>
    isElsewhere_runtime (mem_runtimeNames_of_mem_runtimeTypes needed)

theorem collects_core (collects : imports.Collects (IsElsewhere service place))
    (needed : ∀ name ∈ names, name ∈ runtimeNames ∧ runtimeModule name = coreModule) :
    (imports.values coreModule names).Collects (IsElsewhere service place) :=
  collects.values fun name member => isElsewhere_core (needed name member).1 (needed name member).2

theorem fieldType_fromCore (type : EdmType) :
    fieldType type ∈ runtimeNames ∧ runtimeModule (fieldType type) = coreModule := by
  cases type <;> decide

theorem complexPropertyFieldType_fromCore (type : EdmType) :
    complexPropertyFieldType (fieldType type) ∈ runtimeNames ∧
      runtimeModule (complexPropertyFieldType (fieldType type)) = coreModule := by
  cases type <;> decide +kernel

/-- A property that is described by a class of the runtime, unless its values are complex. -/
def IsDescribed (property : Service.Property) : Prop :=
  property.isComplex = false → ∃ type : EdmType, property.fieldType = fieldType type

variable (named : IsNamed service) {property : Service.Property} {type : Service.ComplexType}

include named

theorem collects_importComplexType (collects : imports.Collects (IsElsewhere service place))
    (member : type ∈ service.complexTypes) (typeName : type.typeName = property.targetType)
    (fieldType : type.fieldType = property.fieldType) (differ : type.typeName ≠ place) :
    (importComplexType imports property).Collects (IsElsewhere service place) := by
  have isName : type.typeName ∈ service.complexTypes.map (·.typeName) :=
    List.mem_map_of_mem (f := (·.typeName)) member
  unfold importComplexType
  rw [← typeName, ← fieldType, named.fieldTypes type member]
  refine collects.values fun name asked => ?_
  rcases List.mem_pair.1 asked with rfl | rfl
  · exact isElsewhere_own (List.mem_append_right _ isName) differ
  · exact isElsewhere_derived named ⟨.field, type.typeName, isName, rfl, rfl⟩ differ

end Asked

end ODataClient.TypeScript
