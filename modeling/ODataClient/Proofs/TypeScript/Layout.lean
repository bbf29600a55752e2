import ODataClient.Proofs.Model.AuxiliaryInputs
import ODataClient.Proofs.TypeScript.Emission
import ODataClient.Proofs.TypeScript.Modules

/-!
# Layout of a package

Where the files of a package lie below its directory, and what each of them imports. This follows
from the skeleton of the service, and so auxiliary inputs do not change it.
-/

namespace ODataClient.TypeScript

open Code (Imports ImportGroup)

variable {service other : Service} {options : PackageOptions} {files : List (String × SourceFile)}

/-- What is imported by a generated file, which is nothing unless it is a source file. -/
def OutputFile.importGroups (file : OutputFile) : List ImportGroup :=
  match file.content with
  | .source source => source.imports.groups
  | .text _ => []

/-- Whether files lie below a directory in the given places, in this order, and import what is given
with these. -/
def HaveLayout (directory : String) (layout : List (String × List ImportGroup))
    (files : List OutputFile) : Prop :=
  files.map (fun file => (file.path, file.importGroups)) =
    layout.map fun place => (directory ++ "/" ++ place.1, place.2)

/-- The modules of a service other than the index, with what each of them imports. -/
def moduleImports (service : Service) : List (String × Imports) :=
  service.entities.map (fun entity => (entity.className, EntityFile.imports entity)) ++
    service.entities.map (fun entity =>
      (requestBuilderClass entity, RequestBuilderFile.imports entity)) ++
    service.complexTypes.map (fun type => (type.typeName, ComplexTypeFile.imports type)) ++
    if service.functionImports.isEmpty then []
    else [(FunctionImportsFile.fileName, service.functionImports.foldl
      FunctionImportsFile.importFunction
        (Imports.none.value coreModule "FunctionImportRequestBuilder"))]

/-- The places of the files of a package, with what each file imports. -/
def layout (service : Service) (options : PackageOptions) : List (String × List ImportGroup) :=
  (moduleImports service).map (fun module => (module.1 ++ ".ts", module.2.groups)) ++
    ("index.ts", []) :: ("tsconfig.json", []) ::
      if options.withPackageJson then [("package.json", [])] else []

theorem map_imports_of_mapM {α ε : Type} {items : List α} {nameOf : α → String}
    {fileOf : α → Except ε SourceFile} {importsOf : α → Imports}
    (made : (items.mapM fun item => do return (nameOf item, ← fileOf item)) = .ok files)
    (same : ∀ item file, fileOf item = .ok file → file.imports = importsOf item) :
    files.map (fun module => (module.1, module.2.imports)) =
      items.map fun item => (nameOf item, importsOf item) := by
  refine ((Outcome.mapM_eq_ok_iff.1 made).map_eq_map ?_).symm
  intro item module named
  obtain ⟨file, isFile, named⟩ := Outcome.bind_eq_ok_iff.1 named
  cases named
  rw [same item file isFile]

theorem map_imports_of_modules (made : modules service = .ok files) :
    files.map (fun module => (module.1, module.2.imports)) = moduleImports service := by
  obtain ⟨entities, madeEntities, made⟩ := Outcome.bind_eq_ok_iff.1 made
  obtain ⟨complexTypes, madeTypes, made⟩ := Outcome.bind_eq_ok_iff.1 made
  have ofEntities := map_imports_of_mapM madeEntities fun entity file isFile => by
    obtain ⟨body, rfl⟩ := entityFile_eq_ok isFile
    rfl
  have ofTypes := map_imports_of_mapM madeTypes fun type file isFile => by
    obtain ⟨fieldClass, build, -, rfl⟩ := complexTypeFile_eq_ok isFile
    rfl
  have ofBuilders : (service.entities.map fun entity =>
      (requestBuilderClass entity, requestBuilderFile entity)).map
        (fun module => (module.1, module.2.imports)) =
      service.entities.map fun entity =>
        (requestBuilderClass entity, RequestBuilderFile.imports entity) := by
    rw [List.map_map]
    rfl
  cases absent : service.functionImports.isEmpty with
  | true =>
      simp only [absent, if_true] at made
      cases made
      simp only [List.map_append, ofEntities, ofTypes, ofBuilders, moduleImports, absent, if_true]
      rfl
  | false =>
      simp only [absent, Bool.false_eq_true, if_false] at made
      obtain ⟨file, isFile, made⟩ := Outcome.bind_eq_ok_iff.1 made
      cases made
      obtain ⟨declarations, -, rfl⟩ := functionImportsFile_eq_ok isFile
      simp only [List.map_append, ofEntities, ofTypes, ofBuilders, moduleImports, absent,
        Bool.false_eq_true, if_false]
      rfl

theorem haveLayout_of_package {emitted : List OutputFile}
    (made : package service options = .ok emitted) :
    HaveLayout service.directoryName (layout service options) emitted := by
  obtain ⟨files, madeFiles, made⟩ := Outcome.bind_eq_ok_iff.1 made
  cases made
  unfold HaveLayout layout
  rw [← map_imports_of_modules madeFiles]
  have nothing : ({} : Imports).groups = [] := rfl
  cases options.withPackageJson <;>
    simp [OutputFile.importGroups, indexFile, Function.comp_def, String.append_assoc, nothing]

section Skeleton

theorem imports_entityFile_undescribed (entity : Service.Entity) :
    EntityFile.imports entity.undescribed = EntityFile.imports entity := by
  simp only [EntityFile.imports, Service.Entity.undescribed, List.foldl_map]
  rfl

theorem imports_requestBuilderFile_undescribed (entity : Service.Entity) :
    RequestBuilderFile.imports entity.undescribed = RequestBuilderFile.imports entity := by
  simp only [RequestBuilderFile.imports, Service.Entity.undescribed, List.foldl_map]
  rfl

theorem imports_complexTypeFile_undescribed (type : Service.ComplexType) :
    ComplexTypeFile.imports type.undescribed = ComplexTypeFile.imports type := by
  simp only [ComplexTypeFile.imports, Service.ComplexType.undescribed, List.foldl_map]
  rfl

theorem moduleImports_skeleton : moduleImports service.skeleton = moduleImports service := by
  simp only [moduleImports, Service.skeleton, List.map_map, Function.comp_def,
    imports_entityFile_undescribed, imports_requestBuilderFile_undescribed,
    imports_complexTypeFile_undescribed]
  rfl

/-- The layout of a package follows from the skeleton of its service. -/
theorem layout_eq_of_skeleton (same : service.skeleton = other.skeleton) :
    layout service options = layout other options := by
  rw [layout, layout, ← moduleImports_skeleton, same, moduleImports_skeleton]

end Skeleton

/-- Two services of which packages can be made that have one layout, each below the directory of its
service. -/
def ArePackagedAlike (options : PackageOptions) (service other : Service) : Prop :=
  ∃ layout files others, package service options = .ok files ∧
    package other options = .ok others ∧ HaveLayout service.directoryName layout files ∧
      HaveLayout other.directoryName layout others

/-- Two builds that fail with the same error, or else report the same findings and make services
that have one skeleton and are packaged alike. -/
inductive AreBuiltAlike (options : PackageOptions) :
    Except BuildError (Service × List Diagnostic) →
      Except BuildError (Service × List Diagnostic) → Prop
  | error (error : BuildError) : AreBuiltAlike options (.error error) (.error error)
  | ok {service other : Service} (findings : List Diagnostic)
      (skeleton : service.skeleton = other.skeleton)
      (packages : ArePackagedAlike options service other) :
      AreBuiltAlike options (.ok (service, findings)) (.ok (other, findings))

/-- Auxiliary inputs do not change the structure of what is generated: whatever has been chosen for
a service and whatever describes it, builds from fresh registries are alike. -/
theorem areBuiltAlike_of_auxiliary (language : TargetLanguage) (schema : Schema) (fileName : String)
    (mapping otherMapping : Option ServiceMapping) (swagger otherSwagger : Option Swagger)
    (name : String) (convention : NamingConvention) (options : PackageOptions) :
    AreBuiltAlike options
      (Model.buildFrom language { schema, fileName, mapping, swagger } (.empty name convention))
      (Model.buildFrom language
        { schema, fileName, mapping := otherMapping, swagger := otherSwagger }
        (.empty name convention)) := by
  have matched : Outcome.Matched _ _ (Model.buildFrom language _ _) _ :=
    Model.matched_buildFrom schema fileName mapping otherMapping swagger otherSwagger name
      convention
  rcases matched.both nofun with ⟨error, failed, failedToo⟩ |
    ⟨⟨service, findings⟩, ⟨other, _⟩, built, builtToo, skeleton, rfl⟩
  · rw [failed, failedToo]
    exact .error error
  · rw [built, builtToo]
    obtain ⟨last, -, types, complex, model⟩ := Model.isModelOf_of_buildFrom built
    obtain ⟨lastToo, -, typesToo, complexToo, modelToo⟩ := Model.isModelOf_of_buildFrom builtToo
    obtain ⟨files, made⟩ := succeeds_package_iff.2 (hasKnownPrimitives_of_isModelOf model)
    obtain ⟨others, madeToo⟩ := succeeds_package_iff.2 (hasKnownPrimitives_of_isModelOf modelToo)
    refine .ok findings skeleton ⟨layout service options, files, others, made, madeToo,
      haveLayout_of_package made, ?_⟩
    exact layout_eq_of_skeleton skeleton ▸ haveLayout_of_package madeToo

end ODataClient.TypeScript
