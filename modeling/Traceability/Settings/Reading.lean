import Traceability.Disk
import Traceability.Settings
import Traceability.Yaml.Node
import Traceability.Yaml.Plain
set_option autoImplicit false

/-!
# Settings: reading

The settings of a project stand in a YAML file below its root.  They are a mapping, in which every key may be
missing.  Unknown keys mean nothing.  Of several entries with one key the last one counts, except that lists are
appended to each other.  A project without the file has the standard settings.
-/

namespace Traceability

open Yaml

/-- Why settings cannot be had. -/
inductive SettingsError where
  /-- There is something in place of the file that is not text. -/
  | unreadable
  /-- The text does not hold settings. -/
  | malformed
  deriving DecidableEq, Repr, Inhabited

namespace Settings

/-- Where the file with the settings is, below the root of the project. -/
def location : List String := [".config", "reqlink", "config.yaml"]

/-! ## Values -/

/-- A truth value, which may be written in quotes.  A missing one is false. -/
def truth? : Node → Option Bool
  | .scalar true text =>
    match Plain.ofText text with
    | .null => some false
    | .truth value => some value
    | _ => none
  | .scalar false text =>
    match String.ofList text with
    | "true" => some true
    | "false" => some false
    | _ => none
  | _ => none

/-- A text, or a number as a text. -/
def text? : Node → Option String
  | .scalar true text =>
    match Plain.ofText text with
    | .number text | .text text => some (String.ofList text)
    | _ => none
  | .scalar false text => some (String.ofList text)
  | _ => none

/-- A text that may be missing. -/
def optionalText? : Node → Option (Option String)
  | node@(.scalar true text) => if Plain.ofText text = .null then some none else (text? node).map some
  | node => (text? node).map some

/-- A sequence of texts.  A missing item is the empty text. -/
def texts? : Node → Option (List String)
  | .sequence items => items.mapM fun item => (optionalText? item).map (·.getD "")
  | _ => none

/-! ## Entries -/

/-- The settings after one more entry. -/
def extend? (s : Settings) : Node × Node → Option Settings
  | (.scalar _ key, value) =>
    match String.ofList key with
    | "include" => (texts? value).map fun more => { s with includes := s.includes ++ more }
    | "exclude" => (texts? value).map fun more => { s with excludes := s.excludes ++ more }
    | "document_extensions" =>
      (texts? value).map fun more => { s with documentExtensions := s.documentExtensions ++ more }
    | "implements_marker" => (optionalText? value).map fun marker => { s with marker }
    | "related_information" => (truth? value).map fun relatedInformation => { s with relatedInformation }
    | "demote_errors" => (truth? value).map fun demoteErrors => { s with demoteErrors }
    | "warning_categories" => (texts? value).map fun more => { s with warningTags := s.warningTags ++ more }
    | _ => some s
  | _ => none

/-- The settings in a document.  An empty document is as good as an empty mapping. -/
def ofNode? : Node → Option Settings
  | .mapping entries => entries.foldlM extend? {}
  | .scalar true text => if Plain.ofText text = .null then some {} else none
  | _ => none

/-- The settings in a text. -/
def ofText? (text : String) : Option Settings := (Yaml.ofText? text).bind ofNode?

/-! ## Files -/

/-- The settings in the file at a path. -/
def load (d : Disk) (p : Path) : Except SettingsError Settings :=
  if !d.doesExist p then .ok {}
  else
    match d.readText? p with
    | none => .error .unreadable
    | some text =>
      match ofText? text with
      | none => .error .malformed
      | some s => .ok s

/-- The settings in the file at a path, or the standard ones if they cannot be had. -/
def loadOrStandard (d : Disk) (p : Path) : Settings :=
  match load d p with
  | .ok s => s
  | .error _ => {}

/-- Where the settings of a project with a root are. -/
def pathBelow (root : Path) : Path := root.append location

/-- The settings of the project with a root.  There are none below a root that is not text. -/
def ofProject (d : Disk) : Option Path → Settings
  | some root => loadOrStandard d (pathBelow root)
  | none => {}

end Settings

end Traceability
