import Traceability.Disk
import Traceability.IgnoreRules
import Traceability.Locator.Basic
import Traceability.Settings
import Traceability.VersionControl
set_option autoImplicit false

/-!
# The workspace

Which files of a project count: those below its root that some pattern includes and none excludes, and that no
ignore file rules out, neither one in or above their directories nor that of the user.  The data of the version control
system never count.
-/

namespace Traceability

/-- Why there is no workspace. -/
inductive WorkspaceError where
  /-- The root is no path. -/
  | invalidRoot (root : String)
  /-- A pattern cannot be read. -/
  | invalidPattern (pattern : String)
  deriving DecidableEq, Repr, Inhabited

/-- The words for a missing workspace. -/
def WorkspaceError.message : WorkspaceError → String
  | invalidRoot root => s!"Invalid project root: {root}"
  | invalidPattern pattern => s!"Invalid glob pattern: {pattern}"

/-- The root of a project and the patterns for its files. -/
structure Workspace where
  /-- The directory from which relative paths count. -/
  directory : Path
  root : Path
  includes : List Glob
  excludes : List Glob
  deriving Inhabited

/-- A file of a project. -/
structure ProjectFile where
  /-- The names that lead to it from the root; none if it is the root. -/
  relative : List String
  /-- Its path, as the root is written. -/
  path : Path
  content : ByteArray

namespace Workspace

/-- Patterns of the settings: asterisks cross slashes, and a lone bracket is a fault. -/
def dialect : Glob.Dialect := { crossesSlash := true, bracketMayStandAlone := false }

/-- Reads patterns, up to the first bad one. -/
def readGlobs (patterns : List String) : Except WorkspaceError (List Glob) :=
  patterns.mapM fun pattern =>
    match Glob.ofText dialect pattern.toList with
    | .ok glob => .ok glob
    | .error _ => .error (.invalidPattern pattern)

/-- The workspace with a root, which may be relative to a directory, and the patterns of the settings. -/
def create (directory : Path) (root : String) (settings : Settings) : Except WorkspaceError Workspace :=
  match Path.absolute? directory root with
  | none => .error (.invalidRoot root)
  | some absolute => do
    let includes ← readGlobs settings.includePatterns
    let excludes ← readGlobs settings.excludePatterns
    return { directory, root := absolute, includes, excludes }

/-- Whether the patterns select a path that is relative to the root. -/
def selects (w : Workspace) (relative : String) : Bool :=
  w.includes.any (·.isMatch relative.toList) && !w.excludes.any (·.isMatch relative.toList)

/-- The workspace of a project whose root is not text.  No file lies below such a root, so nothing is selected. -/
def vacant (directory : Path) : Workspace := { directory, root := ⟨[]⟩, includes := [], excludes := [] }

/-- Whether a path lies in the workspace and the patterns select it.  Ignore files have no say here. -/
def isIncluded (w : Workspace) (p : Path) : Bool := (p.relativeTo? w.root).any w.selects

/-! ## Discovery -/

/-- The kinds of ignore files. -/
inductive IgnoreKind where
  /-- A file for all tools. -/
  | general
  /-- A file for the version control system. -/
  | versioned
  /-- A file among the data of the version control system. -/
  | excluded
  deriving DecidableEq, Repr, Inhabited

/-- The kinds of ignore files, the decisive ones first. -/
def ignoreKinds : List IgnoreKind := [.general, .versioned, .excluded]

/-- The bytes of the ignore file of a kind that belongs to a directory. -/
def IgnoreKind.bytes? (d : Disk) (directory : Path) (names : List String) : IgnoreKind → Option ByteArray
  | general => d.files[names ++ [".ignore"]]?
  | versioned => d.files[names ++ [".gitignore"]]?
  | excluded => VersionControl.rulesBytes? d directory names

/-- Whether an ignore file rules out a file or directory.  Of the ignore files of one kind, the nearest one
that says something decides.  Where none of them says anything, it is for the ignore file of the user to say. -/
def isIgnored (w : Workspace) (d : Disk) (names : List String) (isDirectory : Bool) : Bool :=
  let verdict? (kind : IgnoreKind) (depth : Nat) : Option Bool :=
    (kind.bytes? d w.directory (names.take depth)).bind fun bytes =>
      IgnoreRules.isIgnored? (IgnoreRules.ofBytes bytes) ("/".intercalate (names.drop depth)).toList isDirectory
  let depths := (List.range names.length).reverse
  (ignoreKinds.findSome? (fun kind => depths.findSome? (verdict? kind)) <|>
    d.isIgnoredByUser? names isDirectory) = some true

/-- Whether a file is found when the directories below `base` are walked. -/
def isReached (w : Workspace) (d : Disk) (base relative : List String) : Bool :=
  !relative.contains VersionControl.entryName &&
    (List.range relative.length).all fun i =>
      !w.isIgnored d (base ++ relative.take (i + 1)) (i + 1 < relative.length)

/-- The files of the project, in the order of their names. -/
def discover (w : Workspace) (d : Disk) : List ProjectFile :=
  match d.resolve? w.root with
  | none => []
  | some base =>
    d.files.toList.filterMap fun (names, content) =>
      if base.isPrefixOf names then
        let relative := names.drop base.length
        let path := if relative.isEmpty then w.root else ⟨w.root.names ++ relative⟩
        if w.isReached d base relative && w.isIncluded path then some { relative, path, content } else none
      else none

/-- Registers the files of the project that hold text, and counts them. -/
def loadInto (w : Workspace) (d : Disk) (x : Index) : Index × Nat :=
  (w.discover d).foldl
    (fun (x, count) file =>
      match String.fromUTF8? file.content with
      | some text => (x.load (Locator.uriOfPath file.path) text, count + 1)
      | none => (x, count))
    (x, 0)

end Workspace

end Traceability
