import Std.Data.ExtTreeSet
import Traceability.Settings
set_option autoImplicit false

/-!
# Severities

Every finding is an error unless the policy demotes it to a warning: by its category, by its file, or all of
them at once.
-/

namespace Traceability

/-- How grave a finding is. -/
inductive Severity where
  | error
  | warning
  deriving DecidableEq, Repr, Inhabited

/-- The word for a severity. -/
def Severity.word : Severity → String
  | error => "error"
  | warning => "warning"

/-- Which findings are only warnings. -/
structure SeverityPolicy where
  warningCategories : List Category := []
  demoteErrors : Bool := false
  demotedUris : Std.ExtTreeSet String := ∅

namespace SeverityPolicy

/-- The policy that a project sets. -/
def ofSettings (s : Settings) : SeverityPolicy :=
  { warningCategories := s.warningCategories, demoteErrors := s.demoteErrors }

/-- The severity of a finding of a category in a file. -/
def severity (p : SeverityPolicy) (uri : String) (c : Category) : Severity :=
  if p.demoteErrors || p.demotedUris.contains uri || p.warningCategories.contains c then .warning else .error

/-- Demotes all findings, or takes this back. -/
def setDemoteErrors (p : SeverityPolicy) (demote : Bool) : SeverityPolicy := { p with demoteErrors := demote }

/-- Demotes the findings of one file, or takes this back. -/
def setUriDemoted (p : SeverityPolicy) (uri : String) (demote : Bool) : SeverityPolicy :=
  { p with demotedUris := if demote then p.demotedUris.insert uri else p.demotedUris.erase uri }

end SeverityPolicy

end Traceability
