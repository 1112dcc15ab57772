import Traceability.Index.Basic
set_option autoImplicit false

/-!
# Settings

What a project may set about its check.  Everything is optional; an empty list stands for the standard one.
-/

namespace Traceability

/-- The settings of a project. -/
structure Settings where
  /-- Patterns of the files that count. -/
  includes : List String := []
  /-- Patterns of the files that do not count. -/
  excludes : List String := []
  /-- The extensions of requirement documents. -/
  documentExtensions : List String := []
  /-- The marker that introduces claims in plain files. -/
  marker : Option String := none
  /-- Whether findings carry remarks about other places. -/
  relatedInformation : Bool := false
  /-- Whether every finding is only a warning. -/
  demoteErrors : Bool := false
  /-- The tags of the categories that are only warnings. -/
  warningTags : List String := []
  deriving DecidableEq, Repr, Inhabited

namespace Settings

/-- A list, or another one in place of the empty list. -/
def orStandard (xs standard : List String) : List String := if xs.isEmpty then standard else xs

/-- The patterns of the files that count: all of them unless set otherwise. -/
def includePatterns (s : Settings) : List String := orStandard s.includes ["**/*"]

/-- The patterns of the files that do not count: those of the build directory unless set otherwise. -/
def excludePatterns (s : Settings) : List String := orStandard s.excludes ["target/**"]

/-- The options of the index. -/
def options (s : Settings) : Options :=
  let standard : Options := {}
  { relatedInformation := s.relatedInformation
    documentExtensions := orStandard s.documentExtensions standard.documentExtensions
    marker := s.marker.getD standard.marker }

/-- The categories that are only warnings.  Unknown tags mean nothing. -/
def warningCategories (s : Settings) : List Category := s.warningTags.filterMap Category.ofTag?

end Settings

end Traceability
