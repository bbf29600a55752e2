import ODataClient.Proofs.Model.Steps
import ODataClient.Model.Service
import ODataClient.Service.Directory

/-!
# Building a model again

The mapping of a service holds what was chosen or made up for it. A build that starts from the same
schema and asks for just these names comes to the same model, also where they were derived from the
name of the file or taken from a Swagger document at first.
-/

namespace ODataClient.Model

open Build

variable {language : TargetLanguage} {input : ModelInput} {start stop : BuildState}
  {service : Service} {findings : List Diagnostic}

/-- The directory is given to the service again, and nothing else depends on who asked for it. -/
theorem run_service_again (ran : (Model.service language input).run start = .ok (service, stop)) :
    (Model.service language { input with mapping := some service.mapping }).run start =
      .ok (service, stop) := by
  obtain ⟨types, _, ranTypes, ran⟩ := run_bind_eq_ok.1 ran
  obtain ⟨directoryName, first, ranDirectory, ran⟩ := run_bind_eq_ok.1 ran
  obtain ⟨functionNames, second, ranNames, ran⟩ := run_bind_eq_ok.1 ran
  obtain ⟨classes, third, ranClasses, ran⟩ := run_bind_eq_ok.1 ran
  obtain ⟨complex, fourth, ranComplex, ran⟩ := run_bind_eq_ok.1 ran
  obtain ⟨complexTypes, fifth, ranComplexTypes, ran⟩ := run_bind_eq_ok.1 ran
  obtain ⟨entities, sixth, ranEntities, ran⟩ := run_bind_eq_ok.1 ran
  obtain ⟨functionImports, last, ranFunctions, ran⟩ := run_bind_eq_ok.1 ran
  obtain ⟨rfl, rfl⟩ := run_pure_eq_ok.1 ran
  obtain ⟨registry, resolved, named⟩ := run_name_eq_ok.1 ranDirectory
  have ranAgain : (Build.name (.directory (Name.readable input.fileName)
      (some directoryName))).run _ = .ok (directoryName, first) :=
    run_name_eq_ok.2 ⟨registry, Name.Registry.resolve_explicitly resolved, named⟩
  refine run_bind_eq_ok.2 ⟨types, _, ranTypes, ?_⟩
  refine run_bind_eq_ok.2 ⟨directoryName, first, ranAgain, ?_⟩
  refine run_bind_eq_ok.2 ⟨functionNames, second, ranNames, ?_⟩
  refine run_bind_eq_ok.2 ⟨classes, third, ranClasses, ?_⟩
  refine run_bind_eq_ok.2 ⟨complex, fourth, ranComplex, ?_⟩
  refine run_bind_eq_ok.2 ⟨complexTypes, fifth, ranComplexTypes, ?_⟩
  refine run_bind_eq_ok.2 ⟨entities, sixth, ranEntities, ?_⟩
  refine run_bind_eq_ok.2 ⟨functionImports, last, ranFunctions, ?_⟩
  exact run_pure_eq_ok.2 ⟨rfl, rfl⟩

theorem fileName_of_build (built : build language input = .ok (service, findings)) :
    service.fileName = input.fileName := by
  obtain ⟨⟨made, state⟩, ran, seen⟩ := Outcome.map_eq_ok_iff.1 built
  obtain ⟨rfl, -⟩ := Prod.mk.inj seen
  obtain ⟨types, _, -, ran⟩ := run_bind_eq_ok.1 ran
  obtain ⟨directoryName, _, -, ran⟩ := run_bind_eq_ok.1 ran
  obtain ⟨functionNames, _, -, ran⟩ := run_bind_eq_ok.1 ran
  obtain ⟨classes, _, -, ran⟩ := run_bind_eq_ok.1 ran
  obtain ⟨complex, _, -, ran⟩ := run_bind_eq_ok.1 ran
  obtain ⟨complexTypes, _, -, ran⟩ := run_bind_eq_ok.1 ran
  obtain ⟨entities, _, -, ran⟩ := run_bind_eq_ok.1 ran
  obtain ⟨functionImports, _, -, ran⟩ := run_bind_eq_ok.1 ran
  obtain ⟨rfl, -⟩ := run_pure_eq_ok.1 ran
  rfl

theorem build_again (built : build language input = .ok (service, findings)) :
    build language { input with mapping := some service.mapping } = .ok (service, findings) := by
  obtain ⟨⟨made, state⟩, ran, seen⟩ := Outcome.map_eq_ok_iff.1 built
  obtain ⟨rfl, rfl⟩ := Prod.mk.inj seen
  exact Outcome.map_eq_ok_iff.2 ⟨(made, state), run_service_again ran, rfl⟩

end ODataClient.Model
