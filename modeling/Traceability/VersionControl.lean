import Traceability.Disk
import Traceability.Text.Line
set_option autoImplicit false

/-!
# Version control

A directory under version control holds an entry with a fixed name.  Mostly it is a directory with the data of the
version control system.  It may also be a file that names the place of a working copy; a file there names the
place of the data that all working copies share.  Names of places that are relative count from the directory in
which the program runs, unless they begin with a dot: then they count from the working copy.
-/

namespace Traceability.VersionControl

/-- The name of the entry. -/
def entryName : String := ".git"

/-- Below the data, the names that lead to the file with further ignore rules. -/
def rulesNames : List String := ["info", "exclude"]

/-- What stands in front of the name of a working copy. -/
def placeMark : List Char := ['g', 'i', 't', 'd', 'i', 'r', ':', ' ']

/-- The first line of a file; none if the file is empty or the line is not UTF-8. -/
def firstLine? (bytes : ByteArray) : Option (List Char) :=
  let line := bytes.toList.takeWhile (· != 0x0a)
  if bytes.isEmpty then none
  else
    (String.fromUTF8? ⟨line.toArray⟩).map fun text =>
      if line.length < bytes.size then Text.dropCarriageReturn text.toList else text.toList

/-- The working copy that the entry of a directory names, if the entry is a file. -/
def workingCopy? (d : Disk) (directory : Path) (names : List String) : Option Path := do
  let line ← firstLine? (← d.files[names ++ [entryName]]?)
  if placeMark.isPrefixOf line then
    some (Path.ofTextIn directory (String.ofList (line.drop placeMark.length)))
  else none

/-- The file that names the place of the data of a working copy. -/
def sharingFile (workingCopy : Path) : Path := workingCopy.append ["commondir"]

/-- The place of the data of a working copy. -/
def sharedData? (d : Disk) (directory workingCopy : Path) : Option Path := do
  let line ← firstLine? (← d.readBytes? (sharingFile workingCopy))
  let text := String.ofList line
  return Path.ofTextIn (if line.head? = some '.' then workingCopy else directory) text

/-- The file with the ignore rules that belong to a directory under version control.  Relative names of places
count from `directory`. -/
def rulesBytes? (d : Disk) (directory : Path) (names : List String) : Option ByteArray :=
  if d.files.contains (names ++ [entryName]) then do
    let copy ← workingCopy? d directory names
    d.readBytes? ((← sharedData? d directory copy).append rulesNames)
  else d.files[names ++ entryName :: rulesNames]?

end Traceability.VersionControl
