import Traceability.CommandLine
set_option autoImplicit false

/-!
# The program

The command line works on a disk that is a value.  This module reads the part of the file system that a run may
look at into such a value, runs the command line on it, and prints what comes out.
-/

namespace Traceability.Program

/-- The names that lead to a file or directory, as a path of the file system. -/
def osPath (names : List String) : String := "/" ++ "/".intercalate names

/-- Whether there is a directory under some names. -/
def isDirectory (names : List String) : IO Bool := do
  try
    return ← (← IO.FS.realPath (osPath names)).isDir
  catch _ =>
    return false

/-- The bytes of the file under some names. -/
def readFile? (names : List String) : IO (Option ByteArray) := do
  try
    return some (← IO.FS.readBinFile (osPath names))
  catch _ =>
    return none

/-- Adds what is under some names to a disk, but not what is in a directory. -/
def observeNames (d : Disk) (names : List String) : IO Disk := do
  if ← isDirectory names then
    return { d with directories := names :: d.directories }
  match ← readFile? names with
  | some bytes => return d.write names bytes
  | none => return d

/-- Adds what a path passes and what it leads to. -/
def observe (d : Disk) (p : Path) : IO Disk := do
  let mut d := d
  let mut names : List String := []
  for piece in p.names do
    names := if piece = ".." then names.dropLast else names ++ [piece]
    d ← observeNames d names
  return d

/-- Adds all files and directories below some names. -/
partial def observeTree (d : Disk) (names : List String) : IO Disk := do
  if ← isDirectory names then
    let mut d := { d with directories := names :: d.directories }
    for entry in ← (← IO.FS.realPath (osPath names)).readDir do
      d ← observeTree d (names ++ [entry.fileName])
    return d
  else observeNames d names

/-- Adds the ignore rules of the version control system that are kept elsewhere. -/
def observeShared (d : Disk) (directory : Path) : IO Disk := do
  let mut d := d
  for names in d.files.keys do
    if names.getLast? = some VersionControl.entryName then
      if let some copy := VersionControl.workingCopy? d directory names.dropLast then
        d ← observe d (VersionControl.sharingFile copy)
        if let some shared := VersionControl.sharedData? d directory copy then
          d ← observe d (shared.append VersionControl.rulesNames)
  return d

/-- The part of the file system that a check from a directory may look at. -/
def observeCheck (directory : Path) (root settings : Option String) : IO Disk := do
  let mut d ← observe {} directory
  for p in CommandLine.ancestors directory do
    d ← observe d (Settings.pathBelow p)
    d ← observe d (p.append [VersionControl.entryName])
  if let some path := settings then
    d ← observe d (Path.ofTextIn directory path)
  let root := match root with
    | some text => Path.ofTextIn directory text
    | none => CommandLine.projectRoot d directory
  d ← observe d root
  match d.resolve? root with
  | none => return d
  | some base =>
    for p in CommandLine.ancestors ⟨base⟩ do
      for names in [[".ignore"], [".gitignore"], VersionControl.entryName :: VersionControl.rulesNames] do
        d ← observe d (p.append names)
    observeShared (← observeTree d base) directory

/-- The part of the file system that a request is about. -/
def observeRequest (directory : Path) : Request → IO Disk
  | .run (.check root settings _) => observeCheck directory root settings
  | _ => return {}

/-- Runs the command line in the current directory and prints what comes out. -/
def run (arguments : List String) : IO UInt32 := do
  let directory := Path.ofTextIn ⟨[]⟩ (toString (← IO.currentDir))
  match CommandLine.read? arguments with
  | none =>
    IO.eprint CommandLine.help
    return UInt32.ofNat CommandLine.misuse
  | some request =>
    let outcome := CommandLine.perform (← observeRequest directory request) directory request
    IO.print outcome.output
    return UInt32.ofNat outcome.exitCode

end Traceability.Program

/-- The program. -/
def main (arguments : List String) : IO UInt32 := Traceability.Program.run arguments
