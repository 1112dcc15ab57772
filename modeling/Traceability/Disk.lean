import Std.Data.ExtTreeMap
import Traceability.Path
set_option autoImplicit false

/-!
# The disk

The contents of a file system at one moment: its files, each under the names that lead to it from the root, in
the order of these names.

All names are text, so nothing is found at a path whose bytes are not text.  There are no links, and every file that is
there can be read.
-/

namespace Traceability

/-- The files of a file system, and the directories that are known to exist besides those with files. -/
structure Disk where
  files : Std.ExtTreeMap (List String) ByteArray := ∅
  directories : List (List String) := []
  /-- What the ignore file of the user, which counts for all projects, says of the file or directory with some names:
  that it is ignored, or that it is kept.  It says nothing if there is no such file. -/
  isIgnoredByUser? (names : List String) (isDirectory : Bool) : Option Bool := none

namespace Disk

/-- Whether the names lead to a directory. -/
def isDirectory (d : Disk) (names : List String) : Bool :=
  names.isEmpty || d.directories.any names.isPrefixOf ||
    d.files.keys.any fun file => names.isPrefixOf file && names != file

/-- Follows the pieces of a path from a directory.  Each step, also one that leads nowhere else, needs the
directory to exist. -/
def follow (d : Disk) (start : List String) : List String → Option (List String)
  | [] => some start
  | piece :: rest =>
    if !d.isDirectory start then none
    else if Path.isIdle piece then d.follow start rest
    else if piece = ".." then d.follow start.dropLast rest
    else d.follow (start ++ [piece]) rest

/-- The names to which a path leads. -/
def resolve? (d : Disk) (p : Path) : Option (List String) := d.follow [] p.pieces

/-- Whether there is a file or a directory at a path. -/
def doesExist (d : Disk) (p : Path) : Bool :=
  match d.resolve? p with
  | none => false
  | some names => d.files.contains names || d.isDirectory names

/-- The bytes of the file at a path. -/
def readBytes? (d : Disk) (p : Path) : Option ByteArray := (d.resolve? p).bind (d.files[·]?)

/-- The text of the file at a path; none if its bytes are not UTF-8. -/
def readText? (d : Disk) (p : Path) : Option String := (d.readBytes? p).bind String.fromUTF8?

/-- The disk after a file has been written. -/
def write (d : Disk) (names : List String) (bytes : ByteArray) : Disk :=
  { d with files := d.files.insert names bytes }

/-- The disk after a file has been deleted; its directory stays. -/
def delete (d : Disk) (names : List String) : Disk :=
  { d with files := d.files.erase names, directories := names.dropLast :: d.directories }

end Disk

end Traceability
