import Traceability.Json.Place
import Traceability.Severity
import Traceability.Workspace
set_option autoImplicit false

/-!
# Reports

A check reads all files of a project, validates them once and reports every finding with its severity, in the
order of the uris of the files.  A report can be shown as coloured lines of text or as JSON.
-/

namespace Traceability

/-- A finding as it is reported. -/
structure ReportedFinding where
  /-- The path of the file relative to the root of the project. -/
  path : String
  severity : Severity
  finding : Finding
  deriving DecidableEq, Repr, Inhabited

/-- What a check of a project found. -/
structure Report where
  /-- The number of files that were read. -/
  files : Nat
  findings : List ReportedFinding
  deriving DecidableEq, Repr, Inhabited

namespace Report

/-! ## Checking -/

/-- How the file with a uri is called in a report: by its path relative to the root, if it lies below the root,
and else by its whole path, with slashes in place of backslashes.  The uris of files denote paths that are text. -/
def shownPath (root : Path) (uri : String) : String :=
  match Locator.pathOfUri? uri with
  | none => uri
  | some p =>
    String.ofList (((p.relativeTo? root).getD p.text).toList.map fun c => if c = '\\' then '/' else c)

/-- Checks the files of a workspace. -/
def ofWorkspace (d : Disk) (w : Workspace) (settings : Settings) : Report :=
  let policy := SeverityPolicy.ofSettings settings
  let (loaded, files) := w.loadInto d (Index.empty settings.options)
  { files
    findings := loaded.validateAll.2.flatMap fun (uri, findings) =>
      findings.map fun finding =>
        { path := shownPath w.root uri, severity := policy.severity uri finding.category, finding } }

/-- Checks the project with a root, which may be relative to a directory. -/
def ofProject (d : Disk) (directory : Path) (root : String) (settings : Settings) :
    Except WorkspaceError Report :=
  (Workspace.create directory root settings).map fun w => ofWorkspace d w settings

/-! ## Counting -/

/-- The number of findings of a severity. -/
def count (r : Report) (s : Severity) : Nat := (r.findings.filter fun f => f.severity = s).length

/-- The number of errors. -/
def errors (r : Report) : Nat := r.count .error

/-- The number of warnings. -/
def warnings (r : Report) : Nat := r.count .warning

/-- Whether something is an error. -/
def hasErrors (r : Report) : Bool := 0 < r.errors

/-! ## Text -/

/-- The sequence that tells a terminal to change its style. -/
def style (code : Nat) : String := s!"\x1b[{code}m"

/-- Bold text in a colour. -/
def bold (colour : Nat) (text : String) : String := style 1 ++ style colour ++ text ++ style 39 ++ style 0

/-- Faint text. -/
def faint (text : String) : String := style 2 ++ text ++ style 0

/-- The colour of red text. -/
def red : Nat := 31

/-- The colour of green text. -/
def green : Nat := 32

/-- The colour of yellow text. -/
def yellow : Nat := 33

/-- The colour of a severity. -/
def colour : Severity → Nat
  | .error => red
  | .warning => yellow

/-- The line for a finding. -/
def findingLine (f : ReportedFinding) : String :=
  let severity := bold (colour f.severity) f.severity.word
  s!"{f.path}:{f.finding.range.display} {severity}[{faint f.finding.category.tag}] {f.finding.message}\n"

/-- The last line. -/
def summaryLine (r : Report) : String :=
  let verdict := if r.hasErrors then bold red "!" else bold green "OK"
  s!"{verdict} Checked {r.files} files: {r.errors} errors, {r.warnings} warnings\n"

/-- The report as coloured lines. -/
def text (r : Report) : String :=
  String.join (r.findings.map findingLine) ++ (if r.findings.isEmpty then "" else "\n") ++ r.summaryLine

/-! ## JSON -/

/-- The name of a severity. -/
def severityName : Severity → String
  | .error => "Error"
  | .warning => "Warning"

/-- The name of a category. -/
def categoryName : Category → String
  | .syntaxError => "SyntaxError"
  | .structuralPlacement => "StructuralPlacement"
  | .subjectMismatch => "SubjectMismatch"
  | .duplicateIdentifier => "DuplicateIdentifier"
  | .unresolvedReference => "UnresolvedReference"
  | .noImplementation => "NoImplementation"

/-- A remark as JSON. -/
def remarkJson (r : Remark) : Json :=
  .object [("message", .text r.message), ("location", .ofOption Json.ofLocation r.location)]

/-- What is wrong, as JSON. -/
def diagnosticJson (f : Finding) : Json :=
  .object [("category", .text (categoryName f.category)), ("message", .text f.message),
    ("range", Json.ofRange f.range), ("related", .ofList remarkJson f.remarks)]

/-- A reported finding as JSON. -/
def findingJson (f : ReportedFinding) : Json :=
  .object [("path", .text f.path), ("severity", .text (severityName f.severity)),
    ("diagnostic", diagnosticJson f.finding)]

/-- The report as JSON. -/
def json (r : Report) : Json :=
  .object [("files", .ofNat r.files), ("findings", .ofList findingJson r.findings)]

/-- The report as JSON text, without a line ending at its end. -/
def jsonText (r : Report) : String := r.json.pretty 0

end Report

end Traceability
