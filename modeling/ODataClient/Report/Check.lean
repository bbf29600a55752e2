import ODataClient.Check
import ODataClient.Report.Line

/-!
# Reports about checks

What is printed about a check: the findings about each service, and how many services are valid.
-/

namespace ODataClient

namespace ServiceCheck

/-- What is printed about a finding. -/
def findingText (diagnostic : Diagnostic) : String :=
  match diagnostic.location with
  | some location => s!"{diagnostic.message}\n  --> {location}"
  | none => diagnostic.message

variable (check : ServiceCheck)

/-- What is printed about the findings of a severity. -/
def texts (severity : Severity) : List String :=
  (check.findings severity).map fun diagnostic =>
    s!"{check.source.fileName}: {findingText diagnostic}"

/-- The lines about a service. -/
def lines : List ReportLine :=
  let failure := check.failure.toList.map fun failure =>
    ReportLine.error s!"{check.source.fileName} ({check.source.path}): {failure}"
  failure ++ (check.texts .error).map .error ++ (check.texts .warning).map .warning ++
    (check.texts .info).map fun text => .result ("info: " ++ text)

/-- Whether the findings call for attention. -/
def isNoisy : Bool := !check.isValid || !(check.findings .warning).isEmpty

end ServiceCheck

namespace CheckReport

variable (report : CheckReport)

def summary : String :=
  let valid := report.services.countP ServiceCheck.isValid
  let total := report.services.length
  if report.isValid then
    let count := countOf valid "service"
    s!"✓ {count} in {report.inputDirectory} valid"
  else s!"{total - valid} of {total} services in {report.inputDirectory} are invalid"

def lines : List ReportLine :=
  report.services.flatMap ServiceCheck.lines ++
    (if report.services.any ServiceCheck.isNoisy then [.blank] else []) ++
    [.result report.summary]

end CheckReport

end ODataClient
