import Mathlib.Data.List.Pairwise
import ODataClient.Proofs.TypeScript.Modules
import ODataClient.Proofs.TypeScript.ServiceNames

/-!
# Modules that are kept apart

The registry compares the names of types with one another and those of functions with one another.
It does not compare functions with types, and it is not asked about the names that are made by
putting something behind the name of a type. A package is free of clashes between its files just if
these names happen not to meet.
-/

namespace ODataClient.TypeScript

open Unicode

variable {service : Service} {files : List OutputFile} {options : PackageOptions}

/-- The classes and the complex types, each of which has a file that is named like it. -/
def ownFileNames (service : Service) : List String :=
  service.entities.map (·.className) ++ service.complexTypes.map (·.typeName)

/-- The names that are made by putting something behind the names of classes and complex types. -/
def derivedNames (service : Service) : List String :=
  service.entities.map (interfaceOf ·.className) ++ service.entities.map requestBuilderClass ++
    service.complexTypes.map (·.fieldType)

/-- Files of which no two have the same path or export the same name. -/
structure AreApart (files : List OutputFile) : Prop where
  paths : (files.map (·.path)).Nodup
  exports : files.Pairwise fun first second => first.exportedNames.Disjoint second.exportedNames

/-- What the registry does not see to: no construct is known to it under the key of another, no name
of a type has been derived from another type, and no function is named like a type that has a file
of its own or like what is derived from it. -/
structure NamesApart (service : Service) : Prop where
  keys : service.constructKeys.Nodup
  derived : (derivedNames service).Disjoint service.typeNames
  functions : service.functionNames.Disjoint (ownFileNames service ++ derivedNames service)

instance : Decidable (NamesApart service) :=
  decidable_of_iff (service.constructKeys.Nodup ∧
      (∀ name ∈ derivedNames service, name ∉ service.typeNames) ∧
      ∀ name ∈ service.functionNames, name ∉ ownFileNames service ++ derivedNames service)
    ⟨fun ⟨keys, derived, functions⟩ => ⟨keys, @derived, @functions⟩,
      fun apart => ⟨apart.keys, @apart.derived, @apart.functions⟩⟩

def modulePath (service : Service) (module : String) : String :=
  service.directoryName ++ "/" ++ (module ++ ".ts")

theorem modulePath_injective : Function.Injective (modulePath service) := by
  intro first second same
  exact (String.append_left_inj ".ts").1 ((String.append_right_inj _).1 same)

/-- Two texts with different last characters stay different whatever stands before them. -/
theorem append_ne_append {first second ending other : String} {last otherLast : Char}
    (ends : ending.toList.getLast? = some last) (otherEnds : other.toList.getLast? = some otherLast)
    (differ : last ≠ otherLast) : first ++ ending ≠ second ++ other := by
  intro same
  have lasts := congrArg (fun text => text.toList.getLast?) same
  simp only [String.toList_append, List.getLast?_append, ends, otherEnds, Option.some_or,
    Option.some.injEq] at lasts
  exact differ lasts

/-- The files of a package are those of its modules, the index, and others without code. -/
theorem package_eq_ok (emitted : package service options = .ok files) :
    ∃ modules, AreModules service modules ∧ ∃ others : List OutputFile,
      files = (modules ++ [("index", indexFile (modules.map Prod.fst))]).map (fun module =>
        ⟨modulePath service module.1, .source module.2⟩) ++ others ∧
      (others.map (·.path)).Nodup ∧
      ∀ file ∈ others, (∃ text, file.content = .text text) ∧
        ∀ module, file.path ≠ modulePath service module := by
  obtain ⟨modules, made, emitted⟩ := Outcome.bind_eq_ok_iff.1 emitted
  cases emitted
  refine ⟨modules, areModules_of_modules made, _, rfl, ?_, ?_⟩
  · cases options.withPackageJson with
    | false => simp
    | true => simp [String.append_right_inj]
  · -- What is not a script is JSON, so its path ends in another letter.
    have json {name : String} (module : String) (ending : name.toList.getLast? = some 'n') :
        service.directoryName ++ "/" ++ name ≠ modulePath service module := by
      have script : (module ++ ".ts").toList.getLast? = some 's' := by
        rw [String.toList_append, List.getLast?_append]
        rfl
      exact append_ne_append ending script (by decide)
    intro file member
    rcases List.mem_cons.1 member with rfl | isPackageJson
    · exact ⟨⟨_, rfl⟩, fun module => json module (by decide)⟩
    · split at isPackageJson
      · rw [List.mem_singleton.1 isPackageJson]
        exact ⟨⟨_, rfl⟩, fun module => json module (by decide)⟩
      · simp at isPackageJson

/-- A source file of a package is that of a module or the index. -/
theorem cases_of_content (emitted : package service options = .ok files) {file : OutputFile}
    {source : SourceFile} (member : file ∈ files) (isSource : file.content = .source source) :
    (∃ module, IsModule service module source) ∨ ∃ names, source = indexFile names := by
  obtain ⟨modules, areModules, others, rfl, -, areTexts⟩ := package_eq_ok emitted
  rcases List.mem_append.1 member with inSources | isOther
  · obtain ⟨⟨module, content⟩, isModule, rfl⟩ := List.mem_map.1 inSources
    cases isSource
    rcases List.mem_append.1 isModule with isModule | isIndex
    · exact .inl ⟨module, (areModules.mem_iff module _).1 isModule⟩
    · cases List.mem_singleton.1 isIndex
      exact .inr ⟨_, rfl⟩
  · obtain ⟨⟨text, isText⟩, -⟩ := areTexts file isOther
    rw [isText] at isSource
    contradiction

theorem exists_file_of_isModule (emitted : package service options = .ok files) {module : String}
    {source : SourceFile} (isModule : IsModule service module source) :
    ∃ file ∈ files, file.content = .source source := by
  obtain ⟨modules, areModules, others, rfl, -⟩ := package_eq_ok emitted
  refine ⟨⟨modulePath service module, .source source⟩, List.mem_append_left _ ?_, rfl⟩
  refine List.mem_map.2 ⟨(module, source), List.mem_append_left _ ?_, rfl⟩
  exact (areModules.mem_iff module source).2 isModule

theorem nodup_paths_iff (emitted : package service options = .ok files) :
    (files.map (·.path)).Nodup ↔ (moduleNames service ++ ["index"]).Nodup := by
  obtain ⟨modules, areModules, others, rfl, distinct, apart⟩ := package_eq_ok emitted
  have paths : ((modules ++ [("index", indexFile (modules.map Prod.fst))]).map fun module =>
      (⟨modulePath service module.1, .source module.2⟩ : OutputFile)).map (·.path) =
        (moduleNames service ++ ["index"]).map (modulePath service) := by
    rw [← areModules.names]
    simp
  rw [List.map_append, List.nodup_append', paths, List.nodup_map_iff modulePath_injective]
  refine ⟨fun all => all.1, fun names => ⟨names, distinct, ?_⟩⟩
  intro path isModule isOther
  obtain ⟨module, -, rfl⟩ := List.mem_map.1 isModule
  obtain ⟨file, member, same⟩ := List.mem_map.1 isOther
  exact (apart file member).2 module same

theorem exports_iff (emitted : package service options = .ok files) {path name : String} :
    (∃ file ∈ files, file.path = path ∧ name ∈ file.exportedNames) ↔
      ∃ module, path = modulePath service module ∧ Declares service module name := by
  obtain ⟨modules, areModules, others, rfl, -, apart⟩ := package_eq_ok emitted
  constructor
  · rintro ⟨file, member, rfl, exported⟩
    rcases List.mem_append.1 member with isSource | isOther
    · obtain ⟨⟨module, source⟩, isModule, rfl⟩ := List.mem_map.1 isSource
      refine ⟨module, rfl, ?_⟩
      rcases List.mem_append.1 isModule with isModule | isIndex
      · have isModule := (areModules.mem_iff module source).1 isModule
        have declared : name ∈ source.exportedNames := exported
        rw [isModule.exportedNames] at declared
        exact isModule.declares declared
      · cases List.mem_singleton.1 isIndex
        simp [OutputFile.exportedNames, SourceFile.exportedNames, indexFile] at exported
    · obtain ⟨⟨text, isText⟩, -⟩ := apart file isOther
      simp [OutputFile.exportedNames, isText] at exported
  · rintro ⟨module, rfl, declares⟩
    obtain ⟨source, isModule, declared⟩ := areModules.declares_iff.1 declares
    refine ⟨⟨modulePath service module, .source source⟩, ?_, rfl, ?_⟩
    · refine List.mem_append_left _ (List.mem_map.2 ⟨(module, source), ?_, rfl⟩)
      exact List.mem_append_left _ ((areModules.mem_iff module source).2 isModule)
    · rw [← isModule.exportedNames] at declared
      exact declared

theorem disjoint_of_pairwise {α β : Type} {items : List α} {view : α → List β}
    (apart : items.Pairwise fun first second => (view first).Disjoint (view second))
    {first second : α} (isFirst : first ∈ items) (isSecond : second ∈ items)
    (differ : first ≠ second) : (view first).Disjoint (view second) := by
  have symmetric : Std.Symm fun first second : α => (view first).Disjoint (view second) :=
    ⟨fun _ _ disjoint _ inSecond inFirst => disjoint inFirst inSecond⟩
  exact apart.forall isFirst isSecond differ

/-- Where files have different paths, they export different names just if each name is exported at
one path only. -/
theorem pairwise_disjoint_iff (distinct : (files.map (·.path)).Nodup) :
    (files.Pairwise fun first second => first.exportedNames.Disjoint second.exportedNames) ↔
      ∀ path other name, (∃ file ∈ files, file.path = path ∧ name ∈ file.exportedNames) →
        (∃ file ∈ files, file.path = other ∧ name ∈ file.exportedNames) → path = other := by
  constructor
  · rintro apart _ _ name ⟨file, member, rfl, exported⟩ ⟨other, otherMember, rfl, again⟩
    by_contra differ
    have different : file ≠ other := fun same => differ (congrArg OutputFile.path same)
    exact disjoint_of_pairwise apart member otherMember different exported again
  · intro once
    refine (List.Nodup.of_map _ distinct).pairwise_of_forall_ne ?_
    intro file member other otherMember differ name exported again
    have same := once _ _ name ⟨file, member, rfl, exported⟩ ⟨other, otherMember, rfl, again⟩
    exact differ (List.inj_on_of_nodup_map distinct member otherMember same)

/-- The files of a package are apart just if its modules have different names and no two of them
declare the same name. -/
theorem areApart_iff (emitted : package service options = .ok files) :
    AreApart files ↔ (moduleNames service ++ ["index"]).Nodup ∧
      ∀ module other name, Declares service module name → Declares service other name →
        module = other := by
  have exports (distinct : (files.map (·.path)).Nodup) := pairwise_disjoint_iff distinct
  simp only [exports_iff emitted] at exports
  constructor
  · rintro ⟨paths, disjoint⟩
    refine ⟨(nodup_paths_iff emitted).1 paths, fun module other name first second => ?_⟩
    exact modulePath_injective
      ((exports paths).1 disjoint _ _ name ⟨module, rfl, first⟩ ⟨other, rfl, second⟩)
  · rintro ⟨names, once⟩
    have paths := (nodup_paths_iff emitted).2 names
    refine ⟨paths, (exports paths).2 ?_⟩
    rintro _ _ name ⟨module, rfl, first⟩ ⟨other, rfl, second⟩
    rw [once module other name first second]

theorem typeNames_eq : service.typeNames =
    ownFileNames service ++ service.functionImports.map (·.parametersTypeName) := by
  simp [Service.typeNames, Service.namedTypes, ownFileNames, Function.comp_def]

theorem className_mem_ownFileNames {entity : Service.Entity}
    (member : entity ∈ service.entities) : entity.className ∈ ownFileNames service :=
  List.mem_append_left _ (List.mem_map_of_mem member)

theorem typeName_mem_ownFileNames {type : Service.ComplexType}
    (member : type ∈ service.complexTypes) : type.typeName ∈ ownFileNames service :=
  List.mem_append_right _ (List.mem_map_of_mem member)

/-- What is put behind the name of a class or complex type. -/
inductive Suffix where
  | interface
  | requestBuilder
  | field

namespace Suffix

def text : Suffix → String
  | interface => "Type"
  | requestBuilder => "RequestBuilder"
  | field => "Field"

/-- The names that something is put behind. -/
def bases (service : Service) : Suffix → List String
  | interface | requestBuilder => service.entities.map (·.className)
  | field => service.complexTypes.map (·.typeName)

/-- The module that declares what is made of a name. -/
def module (base : String) : Suffix → String
  | interface | field => base
  | requestBuilder => base ++ "RequestBuilder"

def last : Suffix → Char
  | interface => 'e'
  | requestBuilder => 'r'
  | field => 'd'

theorem getLast?_text (suffix : Suffix) : suffix.text.toList.getLast? = some suffix.last := by
  cases suffix <;> decide

/-- What is put behind a name can be told from the last character. -/
theorem append_text_injective {suffix other : Suffix} {base second : String}
    (same : base ++ suffix.text = second ++ other.text) : suffix = other ∧ base = second := by
  have alike : suffix = other := by
    by_contra differ
    refine append_ne_append suffix.getLast?_text other.getLast?_text ?_ same
    cases suffix <;> cases other <;> first | contradiction | decide
  subst alike
  exact ⟨rfl, (String.append_left_inj _).1 same⟩

theorem beginsNotSmall_text (suffix : Suffix) : BeginsNotSmall suffix.text.toList := by
  cases suffix <;> exact beginsOutside_cons.2 (.inl (by decide))

theorem mem_ownFileNames_of_mem_bases {suffix : Suffix} {base : String}
    (member : base ∈ suffix.bases service) : base ∈ ownFileNames service := by
  cases suffix with
  | interface => exact List.mem_append_left _ member
  | requestBuilder => exact List.mem_append_left _ member
  | field => exact List.mem_append_right _ member

end Suffix

/-- A derived name together with the module that declares it. -/
def IsDerived (service : Service) (module name : String) : Prop :=
  ∃ suffix : Suffix, ∃ base ∈ suffix.bases service,
    module = suffix.module base ∧ name = base ++ suffix.text

theorem IsDerived.module_eq {module other name : String} (first : IsDerived service module name)
    (second : IsDerived service other name) : module = other := by
  obtain ⟨suffix, base, -, rfl, rfl⟩ := first
  obtain ⟨otherSuffix, otherBase, -, rfl, same⟩ := second
  obtain ⟨rfl, rfl⟩ := Suffix.append_text_injective same
  rfl

/-- The names that are declared in the file of function imports. -/
def functionFileNames (service : Service) : List String :=
  service.functionImports.map (·.parametersTypeName) ++ service.functionNames ++
    ["functionImports"]

section Named

variable (named : IsNamed service) {module name : String}

include named

theorem mem_derivedNames :
    name ∈ derivedNames service ↔ ∃ module, IsDerived service module name := by
  have fields : service.complexTypes.map (·.fieldType) =
      (service.complexTypes.map (·.typeName)).map (· ++ "Field") := by
    rw [List.map_map]
    exact List.map_congr_left named.fieldTypes
  rw [derivedNames, fields, List.mem_append, List.mem_append]
  constructor
  · rintro ((isInterface | isBuilder) | isField)
    · obtain ⟨entity, member, rfl⟩ := List.mem_map.1 isInterface
      exact ⟨_, .interface, _, List.mem_map_of_mem member, rfl, rfl⟩
    · obtain ⟨entity, member, rfl⟩ := List.mem_map.1 isBuilder
      exact ⟨_, .requestBuilder, _, List.mem_map_of_mem member, rfl, rfl⟩
    · obtain ⟨base, member, rfl⟩ := List.mem_map.1 isField
      exact ⟨_, .field, _, member, rfl, rfl⟩
  · rintro ⟨_, suffix, base, member, -, rfl⟩
    cases suffix with
    | interface =>
        obtain ⟨entity, isEntity, rfl⟩ := List.mem_map.1 member
        exact .inl (.inl (List.mem_map.2 ⟨entity, isEntity, rfl⟩))
    | requestBuilder =>
        obtain ⟨entity, isEntity, rfl⟩ := List.mem_map.1 member
        exact .inl (.inr (List.mem_map.2 ⟨entity, isEntity, rfl⟩))
    | field => exact .inr (List.mem_map_of_mem member)

theorem beginsNotSmall_of_mem_ownFileNames (member : name ∈ ownFileNames service) :
    BeginsNotSmall name.toList :=
  named.typesSpelled name (typeNames_eq ▸ List.mem_append_left _ member)

theorem IsDerived.beginsNotSmall (isDerived : IsDerived service module name) :
    BeginsNotSmall module.toList ∧ BeginsNotSmall name.toList := by
  obtain ⟨suffix, base, member, rfl, rfl⟩ := isDerived
  have begins := beginsNotSmall_of_mem_ownFileNames named
    (Suffix.mem_ownFileNames_of_mem_bases member)
  have behind (other : Suffix) : BeginsNotSmall (base ++ other.text).toList := by
    rw [String.toList_append]
    exact begins.append other.beginsNotSmall_text
  refine ⟨?_, behind suffix⟩
  cases suffix with
  | interface => exact begins
  | requestBuilder => exact behind .requestBuilder
  | field => exact begins

theorem beginsNotSmall_of_shared
    (shared : name ∈ ownFileNames service ∨ name ∈ derivedNames service) :
    BeginsNotSmall name.toList := by
  rcases shared with isOwn | isDerived
  · exact beginsNotSmall_of_mem_ownFileNames named isOwn
  · obtain ⟨module, isDerived⟩ := (mem_derivedNames named).1 isDerived
    exact (isDerived.beginsNotSmall named).2

/-- Three kinds of names are declared: own names of files, derived names, and names in the file of
function imports. -/
theorem Declares.cases (declares : Declares service module name) :
    (module = name ∧ name ∈ ownFileNames service) ∨ IsDerived service module name ∨
      (module = FunctionImportsFile.fileName ∧ name ∈ functionFileNames service) := by
  cases declares with
  | entityClass member =>
      exact .inl ⟨rfl, className_mem_ownFileNames member⟩
  | entityInterface member =>
      exact .inr (.inl ⟨.interface, _, List.mem_map_of_mem member, rfl, rfl⟩)
  | requestBuilder member =>
      exact .inr (.inl ⟨.requestBuilder, _, List.mem_map_of_mem member, rfl, rfl⟩)
  | complexType member =>
      exact .inl ⟨rfl, typeName_mem_ownFileNames member⟩
  | fieldClass member =>
      exact .inr (.inl ⟨.field, _, List.mem_map_of_mem member, rfl, named.fieldTypes _ member⟩)
  | parameters member =>
      refine .inr (.inr ⟨rfl, ?_⟩)
      exact List.mem_append_left _ (List.mem_append_left _ (List.mem_map_of_mem member))
  | function member =>
      refine .inr (.inr ⟨rfl, ?_⟩)
      exact List.mem_append_left _ (List.mem_append_right _ (List.mem_map_of_mem member))
  | listing present =>
      exact .inr (.inr ⟨rfl, List.mem_append_right _ (List.mem_singleton_self _)⟩)

omit named in
theorem declares_of_mem_ownFileNames (member : name ∈ ownFileNames service) :
    Declares service name name := by
  rcases List.mem_append.1 member with isClass | isComplexType
  · obtain ⟨entity, isEntity, rfl⟩ := List.mem_map.1 isClass
    exact .entityClass isEntity
  · obtain ⟨type, isType, rfl⟩ := List.mem_map.1 isComplexType
    exact .complexType isType

theorem IsDerived.declares (isDerived : IsDerived service module name) :
    Declares service module name := by
  obtain ⟨suffix, base, member, rfl, rfl⟩ := isDerived
  cases suffix with
  | interface =>
      obtain ⟨entity, isEntity, rfl⟩ := List.mem_map.1 member
      exact .entityInterface isEntity
  | requestBuilder =>
      obtain ⟨entity, isEntity, rfl⟩ := List.mem_map.1 member
      exact .requestBuilder isEntity
  | field =>
      obtain ⟨type, isType, rfl⟩ := List.mem_map.1 member
      have declares := Declares.fieldClass isType
      rwa [named.fieldTypes type isType] at declares

end Named

theorem not_beginsNotSmall_listing : ¬ BeginsNotSmall "functionImports".toList :=
  not_beginsOutside (by decide)

theorem not_beginsNotSmall_fileName : ¬ BeginsNotSmall FunctionImportsFile.fileName.toList :=
  not_beginsOutside (by decide)

section Apart

variable (named : IsNamed service) (apart : NamesApart service) {module name : String}

include named apart

theorem not_isDerived_of_mem_ownFileNames (isOwn : name ∈ ownFileNames service) :
    ¬ IsDerived service module name := by
  intro isDerived
  have isType : name ∈ service.typeNames := typeNames_eq ▸ List.mem_append_left _ isOwn
  exact apart.derived ((mem_derivedNames named).2 ⟨module, isDerived⟩) isType

/-- The names in the file of function imports are neither own names of other files nor derived. -/
theorem notMem_functionFileNames
    (isOther : name ∈ ownFileNames service ∨ name ∈ derivedNames service) :
    name ∉ functionFileNames service := by
  have begins := beginsNotSmall_of_shared named isOther
  rw [functionFileNames, List.mem_append, List.mem_append, List.mem_singleton]
  rintro ((isParameters | isFunction) | rfl)
  · rcases isOther with isOwn | isDerived
    · have distinct := named.keys_iff.1 apart.keys
      rw [typeNames_eq] at distinct
      exact (List.nodup_append'.1 distinct).2.2 isOwn isParameters
    · have isType : name ∈ service.typeNames := typeNames_eq ▸ List.mem_append_right _ isParameters
      exact apart.derived isDerived isType
  · exact apart.functions isFunction (List.mem_append.2 isOther)
  · exact not_beginsNotSmall_listing begins

/-- Each name is declared by one module only. -/
theorem Declares.module_eq {other : String} (first : Declares service module name)
    (second : Declares service other name) : module = other := by
  have ownNotInFile (isOwn : name ∈ ownFileNames service) : name ∉ functionFileNames service :=
    notMem_functionFileNames named apart (.inl isOwn)
  have derivedNotInFile {place : String} (isDerived : IsDerived service place name) :
      name ∉ functionFileNames service :=
    notMem_functionFileNames named apart (.inr ((mem_derivedNames named).2 ⟨place, isDerived⟩))
  rcases first.cases named with ⟨rfl, isOwn⟩ | isDerived | ⟨rfl, inFile⟩
  · rcases second.cases named with ⟨rfl, -⟩ | isDerived | ⟨-, inFile⟩
    · rfl
    · exact (not_isDerived_of_mem_ownFileNames named apart isOwn isDerived).elim
    · exact (ownNotInFile isOwn inFile).elim
  · rcases second.cases named with ⟨rfl, isOwn⟩ | again | ⟨-, inFile⟩
    · exact (not_isDerived_of_mem_ownFileNames named apart isOwn isDerived).elim
    · exact isDerived.module_eq again
    · exact (derivedNotInFile isDerived inFile).elim
  · rcases second.cases named with ⟨rfl, isOwn⟩ | isDerived | ⟨rfl, -⟩
    · exact (ownNotInFile isOwn inFile).elim
    · exact (derivedNotInFile isDerived inFile).elim
    · rfl

omit named apart in
theorem mem_derivedNames_of_isBuilder (member : name ∈ service.entities.map requestBuilderClass) :
    name ∈ derivedNames service :=
  List.mem_append_left _ (List.mem_append_right _ member)

theorem nodup_ownFileNames : (ownFileNames service).Nodup := by
  have own := named.keys_iff.1 apart.keys
  rw [typeNames_eq] at own
  exact (List.nodup_append'.1 own).1

/-- The classes, their request builders and the complex types are in different modules. -/
theorem nodup_typeModules : (service.entities.map (·.className) ++
    service.entities.map requestBuilderClass ++ service.complexTypes.map (·.typeName)).Nodup := by
  have builders : (service.entities.map requestBuilderClass).Nodup := by
    have appended := named.classes.map fun _ _ => (String.append_left_inj "RequestBuilder").1
    rwa [List.map_map] at appended
  have notBuilder {name : String} (isOwn : name ∈ ownFileNames service) :
      name ∉ service.entities.map requestBuilderClass :=
    fun member => apart.derived (mem_derivedNames_of_isBuilder member)
      (typeNames_eq ▸ List.mem_append_left _ isOwn)
  refine List.nodup_append'.2 ⟨List.nodup_append'.2 ⟨named.classes, builders, ?_⟩,
    named.complexTypes, ?_⟩
  · exact fun name isClass => notBuilder (List.mem_append_left _ isClass)
  · intro name member isType
    rcases List.mem_append.1 member with isClass | isBuilder
    · exact (List.nodup_append'.1 (nodup_ownFileNames named apart)).2.2 isClass isType
    · exact notBuilder (List.mem_append_right _ isType) isBuilder

theorem nodup_moduleNames : (moduleNames service ++ ["index"]).Nodup := by
  have begins {name : String} (member : name ∈ service.entities.map (·.className) ++
      service.entities.map requestBuilderClass ++ service.complexTypes.map (·.typeName)) :
      BeginsNotSmall name.toList := by
    refine beginsNotSmall_of_shared named ?_
    rcases List.mem_append.1 member with inEntities | isType
    · rcases List.mem_append.1 inEntities with isClass | isBuilder
      · exact .inl (List.mem_append_left _ isClass)
      · exact .inr (mem_derivedNames_of_isBuilder isBuilder)
    · exact .inl (List.mem_append_right _ isType)
  have index : ¬ BeginsNotSmall "index".toList := not_beginsOutside (by decide)
  unfold moduleNames
  rw [List.append_assoc]
  refine List.nodup_append'.2 ⟨nodup_typeModules named apart, ?_, fun name member isOther => ?_⟩
  · split <;> decide
  · -- What is left are names that begin with a small letter.
    have isSmall : ¬ BeginsNotSmall name.toList := by
      split at isOther
      · rw [List.mem_singleton.1 isOther]
        exact index
      · rcases List.mem_append.1 isOther with isFile | isIndex
        · rw [List.mem_singleton.1 isFile]
          exact not_beginsNotSmall_fileName
        · rw [List.mem_singleton.1 isIndex]
          exact index
    exact isSmall (begins member)

end Apart

theorem Suffix.append_text_ne (suffix : Suffix) (base : String) : base ++ suffix.text ≠ base := by
  intro same
  have lengths := congrArg String.length same
  rw [String.length_append] at lengths
  cases suffix <;> simp [Suffix.text] at lengths

section Once

variable (named : IsNamed service) (distinct : (moduleNames service ++ ["index"]).Nodup)
  (once : ∀ module other name, Declares service module name → Declares service other name →
    module = other)

include named once

/-- What is declared in a file of its own is not declared in the file of function imports too. -/
theorem not_declares_fileName {name : String}
    (isOther : name ∈ ownFileNames service ∨ name ∈ derivedNames service) :
    ¬ Declares service FunctionImportsFile.fileName name := by
  intro inFile
  rcases isOther with isOwn | isDerived
  · have same := once _ _ _ (declares_of_mem_ownFileNames isOwn) inFile
    exact not_beginsNotSmall_fileName (same ▸ beginsNotSmall_of_mem_ownFileNames named isOwn)
  · obtain ⟨module, isDerived⟩ := (mem_derivedNames named).1 isDerived
    have same := once _ _ _ (isDerived.declares named) inFile
    exact not_beginsNotSmall_fileName (same ▸ (isDerived.beginsNotSmall named).1)

include distinct in
theorem notMem_ownFileNames_of_isDerived {module name : String}
    (isDerived : IsDerived service module name) : name ∉ ownFileNames service := by
  intro isOwn
  have same := once _ _ _ (isDerived.declares named) (declares_of_mem_ownFileNames isOwn)
  obtain ⟨suffix, base, member, rfl, rfl⟩ := isDerived
  cases suffix with
  | interface => exact Suffix.append_text_ne .interface base same.symm
  | field => exact Suffix.append_text_ne .field base same.symm
  | requestBuilder =>
      obtain ⟨entity, isEntity, rfl⟩ := List.mem_map.1 member
      have isBuilder : entity.className ++ Suffix.requestBuilder.text ∈
          service.entities.map requestBuilderClass :=
        List.mem_map.2 ⟨entity, isEntity, rfl⟩
      rw [moduleNames, List.append_assoc, List.nodup_append', List.nodup_append',
        List.nodup_append'] at distinct
      obtain ⟨⟨⟨-, -, classes⟩, -, types⟩, -⟩ := distinct
      rcases List.mem_append.1 isOwn with isClass | isType
      · exact classes isClass isBuilder
      · exact types (List.mem_append_right _ isBuilder) isType

include distinct in
theorem namesApart_of_once : NamesApart service := by
  constructor
  · have own : (ownFileNames service).Nodup := by
      have files : (ownFileNames service).Sublist (moduleNames service ++ ["index"]) := by
        rw [moduleNames, List.append_assoc]
        refine List.Sublist.trans ?_ (List.sublist_append_left _ _)
        exact (List.sublist_append_left _ _).append_right _
      exact distinct.sublist files
    rw [named.keys_iff, typeNames_eq, List.nodup_append']
    refine ⟨own, named.parametersTypes, fun name isOwn isParameters => ?_⟩
    obtain ⟨functionImport, member, rfl⟩ := List.mem_map.1 isParameters
    exact not_declares_fileName named once (.inl isOwn) (.parameters member)
  · intro name member isType
    obtain ⟨module, isDerived⟩ := (mem_derivedNames named).1 member
    rw [typeNames_eq] at isType
    rcases List.mem_append.1 isType with isOwn | isParameters
    · exact notMem_ownFileNames_of_isDerived named distinct once isDerived isOwn
    · obtain ⟨functionImport, isFunction, rfl⟩ := List.mem_map.1 isParameters
      exact not_declares_fileName named once (.inr member) (.parameters isFunction)
  · intro name isFunction isOther
    obtain ⟨functionImport, member, rfl⟩ := List.mem_map.1 isFunction
    exact not_declares_fileName named once (List.mem_append.1 isOther) (.function member)

end Once

/-- The files of a package do not meet just if no two constructs have one key in the registry and
no derived name and no function has the name of anything else. -/
theorem areApart_iff_namesApart {input : ServiceInput} {findings : List Diagnostic}
    (done : (Pipeline.standard language).model input = .ok (service, findings))
    (emitted : package service options = .ok files) :
    AreApart files ↔ NamesApart service := by
  obtain ⟨schema, built⟩ := Pipeline.isBuilt_of_model done
  have named := isNamed_of_isBuilt built
  rw [areApart_iff emitted]
  constructor
  · rintro ⟨distinct, once⟩
    exact namesApart_of_once named distinct once
  · intro apart
    refine ⟨nodup_moduleNames named apart, fun module other name first second => ?_⟩
    exact first.module_eq named apart second

/-- What is seen of a model and its package is seen of those that there are. -/
theorem exists_package_of_outline {α : Type} {outcome : Except BuildError (Service × List Diagnostic)}
    (view : Service → List OutputFile → α) {seen : α}
    (outline : (outcome.toOption.bind fun made =>
      (package made.1 options).toOption.map (view made.1)) = some seen) :
    ∃ service findings files, outcome = .ok (service, findings) ∧
      package service options = .ok files ∧ view service files = seen := by
  obtain ⟨⟨service, findings⟩, made, outline⟩ := Option.bind_eq_some_iff.1 outline
  obtain ⟨files, emitted, same⟩ := Option.map_eq_some_iff.1 outline
  exact ⟨service, findings, files, Outcome.toOption_eq_some_iff.1 made,
    Outcome.toOption_eq_some_iff.1 emitted, same⟩

/-- What is seen of a service and its package, when they are made of a schema, is seen of those that
are made of the documents with that schema. -/
theorem exists_package {α : Type} {input : ServiceInput} {schema : Schema}
    (view : Service → List OutputFile → α) {seen : α}
    (accepted : Schema.parse input.documents = .ok schema) (passes : schema.Passes Lint.all)
    (outline : ((Model.build language (Pipeline.modelInput input schema)).toOption.bind fun made =>
      (package made.1 options).toOption.map (view made.1)) = some seen) :
    ∃ service findings files,
      (Pipeline.standard language).model input = .ok (service, findings) ∧
        package service options = .ok files ∧ view service files = seen := by
  obtain ⟨service, reported, files, built, emitted, same⟩ := exists_package_of_outline view outline
  exact ⟨service, _, files, Pipeline.model_of_isBuilt ⟨accepted, passes, reported, built, rfl⟩,
    emitted, same⟩

/-- Two entity sets, of which one is named like the request builder of the other. -/
def ordersDocument : Source where
  name := "orders.edmx"
  text := "<Edmx><DataServices><Schema Namespace=\"Shop\">
    <EntityType Name=\"Order\">
      <Key><PropertyRef Name=\"Number\"/></Key>
      <Property Name=\"Number\" Type=\"Edm.String\"/>
    </EntityType>
    <EntityContainer>
      <EntitySet Name=\"Order\" EntityType=\"Shop.Order\"/>
      <EntitySet Name=\"OrderRequestBuilder\" EntityType=\"Shop.Order\"/>
    </EntityContainer>
  </Schema></DataServices></Edmx>"

def orders : ServiceInput where
  fileName := "orders"
  documents := [ordersDocument]
  mapping := none
  swagger := none

def ordersSchema : Schema where
  ns := "Shop"
  namespaces := ["Shop"]
  entityTypes := [{
    ns := "Shop", name := "Order", keys := ["Number"], navigation := [], label := none
    properties := [Model.plainProperty "Number" "Edm.String"] }]
  entitySets := [
    { name := "Order", type := "Shop.Order", label := none },
    { name := "OrderRequestBuilder", type := "Shop.Order", label := none }]

set_option maxRecDepth 4000 in
theorem parse_orders : Schema.parse orders.documents = .ok ordersSchema := by
  have text : ordersDocument.text.toList = _ := Schema.toList_of_eq_ofList rfl
  have documents : orders.documents = [ordersDocument] := rfl
  rw [documents, Schema.parse, List.mapM_cons, Schema.partsOf, Document.parse?,
    Xml.Document.ofText?, text]
  decide +kernel

theorem passes_orders : ordersSchema.Passes Lint.all := by
  refine Schema.passes_all (Model.postOrder_of_nil rfl) ?_
  unfold Schema.Passes
  decide +kernel

theorem package_orders : ∃ service findings files,
    (Pipeline.standard language).model orders = .ok (service, findings) ∧
      package service {} = .ok files ∧ files.map (·.path) =
        ["orders/Order.ts", "orders/OrderRequestBuilder.ts", "orders/OrderRequestBuilder.ts",
          "orders/OrderRequestBuilderRequestBuilder.ts", "orders/index.ts",
          "orders/tsconfig.json"] := by
  refine exists_package (fun _ files => files.map (·.path)) parse_orders passes_orders ?_
  have ordered : Model.orderedComplexTypes (Pipeline.modelInput orders ordersSchema).schema =
      .ok [] :=
    Model.orderedComplexTypes_of_nil rfl
  simp only [Model.build, Model.buildFrom, Model.service, ordered]
  decide +kernel

/-- Files of a package may overwrite one another. -/
theorem exists_package_not_areApart : ∃ service findings files,
    (Pipeline.standard language).model orders = .ok (service, findings) ∧
      package service {} = .ok files ∧ ¬ AreApart files := by
  obtain ⟨service, findings, files, done, emitted, paths⟩ := package_orders
  refine ⟨service, findings, files, done, emitted, fun apart => ?_⟩
  have distinct := apart.paths
  rw [paths] at distinct
  revert distinct
  decide

theorem areApart_iff_namesApart_orders : ∃ service findings files,
    (Pipeline.standard language).model orders = .ok (service, findings) ∧
      package service {} = .ok files ∧ (AreApart files ↔ NamesApart service) := by
  obtain ⟨service, findings, files, done, emitted, -⟩ := package_orders
  exact ⟨service, findings, files, done, emitted, areApart_iff_namesApart done emitted⟩

end ODataClient.TypeScript
