import ODataClient.Generation.Run
import ODataClient.Report.Line

/-!
# Reports about generation

What is printed about a run: the files if they are only shown, the warnings, the services, the
failures, and how many files were written.
-/

namespace ODataClient.GenerationReport

/-- The lines that show files. -/
def shownLines (files : List TypeScript.OutputFile) : List ReportLine :=
  (files.flatMap fun file => [.divider file.path, .result file.text]) ++
    [.divider "Summary", .result (countOf files.length "file" ++ " would be generated"), .blank]

def serviceLine (service : Service) : ReportLine :=
  let entities := countOf service.entities.length "entity type"
  let complexTypes := countOf service.complexTypes.length "complex type"
  let functionImports := countOf service.functionImports.length "function import"
  .item "+" (s!"{service.fileName} -> {service.directoryName} " ++
    s!"({entities}, {complexTypes}, {functionImports})")

/-- The lines about a service whose client was not generated. -/
def failureLines (failure : ServiceFailure) : List ReportLine :=
  .item "x" s!"{failure.fileName} ({failure.path})" ::
    (Text.lines failure.fault.text).map fun line => .result ("      " ++ line)

/-- The lines about what was written. -/
def writtenLines (outputDirectory : String) (report : WriteReport) : List ReportLine :=
  let count := countOf report.written.length "file"
  unlessEmpty report.skipped
    (.blank :: .heading "Kept existing files (use --force-overwrite to replace)" ::
      report.skipped.map (.item "-")) ++
    [.blank, .result s!"Generated: {count} in {outputDirectory}"]

variable (report : GenerationReport)

def lines : List ReportLine :=
  let shown := match report.result with
    | .shown files => shownLines files
    | .written _ => []
  let warnings := unlessEmpty report.warnings (report.warnings.map .warning ++ [.blank])
  let services := unlessEmpty report.services
    (.heading s!"Services ({report.services.length})" :: report.services.map serviceLine)
  let failures := unlessEmpty report.failures
    (.blank :: .heading s!"Failed ({report.failures.length})" ::
      report.failures.flatMap failureLines)
  let written := match report.result with
    | .shown _ => []
    | .written written => writtenLines report.outputDirectory written
  shown ++ warnings ++ services ++ failures ++ written

end ODataClient.GenerationReport
