import Traceability.Report
import Traceability.Settings.Reading
set_option autoImplicit false

/-!
# The command line

There are two commands: `check` checks a project once, `lsp` serves an editor.  Arguments are read from left to
right, and the first one that is wrong or asks for help decides.  A switch that takes a value takes the rest of
its argument, or else the next argument, unless that begins with a dash.
-/

namespace Traceability

/-- How a report is shown. -/
inductive ReportFormat where
  | text
  | json
  deriving DecidableEq, Repr, Inhabited

/-- What is to be done. -/
inductive Command where
  /-- Check the project with a root, with the settings of a file, and report in a format. -/
  | check (root settings : Option String) (format : ReportFormat)
  /-- Serve an editor that works on the project with a root. -/
  | serve (root : Option String)
  deriving DecidableEq, Repr, Inhabited

/-- What the arguments ask for. -/
inductive Request where
  | run (command : Command)
  | showHelp
  | showVersion
  deriving DecidableEq, Repr, Inhabited

/-- What a run of the program leaves behind. -/
structure Outcome where
  exitCode : Nat
  output : String := ""
  deriving DecidableEq, Repr, Inhabited

namespace CommandLine

/-! ## Switches -/

/-- What a switch asks for. -/
inductive Switch where
  | help
  | root
  | settings
  | format
  deriving DecidableEq, Repr, Inhabited

/-- How a switch is written: after two dashes, and perhaps as one letter after one dash. -/
structure Spelling where
  long : String
  short : Option Char
  switch : Switch
  deriving Repr, Inhabited

/-- The switch for help. -/
def helpSpelling : Spelling := ⟨"help", some 'h', .help⟩

/-- The arguments that a command takes. -/
structure Signature where
  takesRoot : Bool
  spellings : List Spelling
  deriving Repr, Inhabited

/-- The arguments of a check. -/
def checkSignature : Signature :=
  ⟨true, [helpSpelling, ⟨"config", some 'c', .settings⟩, ⟨"format", some 'f', .format⟩]⟩

/-- The arguments of an editor session. -/
def serveSignature : Signature := ⟨false, [helpSpelling, ⟨"root", none, .root⟩]⟩

/-- An argument that may be a switch, with the value that is attached to it. -/
inductive Form where
  | switch (switch : Switch) (attached : Option String)
  | unknownSwitch
  /-- A lone pair of dashes: only values follow. -/
  | onlyValues
  | value (text : String)
  deriving DecidableEq, Repr, Inhabited

/-- The switch that satisfies `p`. -/
def findSwitch (spellings : List Spelling) (p : Spelling → Bool) (attached : Option String) : Form :=
  match spellings.find? p with
  | some s => .switch s.switch attached
  | none => .unknownSwitch

/-- Reads one argument.  A lone dash is a value. -/
def readForm (spellings : List Spelling) (argument : String) : Form :=
  match argument.toList with
  | ['-', '-'] => .onlyValues
  | '-' :: '-' :: rest =>
    let name := String.ofList (rest.takeWhile (· != '='))
    let attached :=
      match rest.dropWhile (· != '=') with
      | [] => none
      | _ :: value => some (String.ofList value)
    findSwitch spellings (·.long == name) attached
  | '-' :: letter :: rest =>
    let attached :=
      match rest with
      | [] => none
      | '=' :: value => some (String.ofList value)
      | value => some (String.ofList value)
    findSwitch spellings (·.short == some letter) attached
  | _ => .value argument

/-! ## Reading arguments -/

/-- The values that have been read. -/
structure Values where
  root : Option String := none
  settings : Option String := none
  format : Option ReportFormat := none
  deriving DecidableEq, Repr, Inhabited

/-- The format with a name. -/
def formatOfName? : String → Option ReportFormat
  | "text" => some .text
  | "json" => some .json
  | _ => none

/-- Takes a value for a switch that has none yet.  Paths are not empty. -/
def Values.take? (v : Values) (switch : Switch) (value : String) : Option Values :=
  match switch with
  | .help => none
  | .root => if v.root.isSome || value.isEmpty then none else some { v with root := some value }
  | .settings => if v.settings.isSome || value.isEmpty then none else some { v with settings := some value }
  | .format => if v.format.isSome then none else (formatOfName? value).map fun f => { v with format := some f }

/-- Takes a value that belongs to no switch. -/
def Values.takeLoose? (v : Values) (signature : Signature) (value : String) : Option Values :=
  if signature.takesRoot then v.take? .root value else none

/-- Reads the arguments of a command: its values, or `none` inside if they ask for help. -/
def readValues? (signature : Signature) (v : Values) : List String → Option (Option Values)
  | [] => some (some v)
  | argument :: rest =>
    match readForm signature.spellings argument with
    | .switch .help none => some none
    | .switch .help (some _) => if argument.startsWith "--" then none else some none
    | .switch switch (some value) => (v.take? switch value).bind fun v => readValues? signature v rest
    | .switch switch none =>
      match rest with
      | [] => none
      | next :: rest =>
        match readForm [] next with
        | .value value => (v.take? switch value).bind fun v => readValues? signature v rest
        | _ => none
    | .unknownSwitch => none
    | .onlyValues => (rest.foldlM (fun (v : Values) value => v.takeLoose? signature value) v).map some
    | .value value => (v.takeLoose? signature value).bind fun v => readValues? signature v rest

/-- Reads the arguments of a command and turns their values into a request. -/
def readCommand? (signature : Signature) (command : Values → Command) (arguments : List String) :
    Option Request :=
  (readValues? signature {} arguments).map fun
    | some v => .run (command v)
    | none => .showHelp

/-- Whether help can be shown for some words: nothing, or one command. -/
def hasHelp (words : List String) : Bool :=
  match words with
  | [] => true
  | [word] => ["check", "lsp", "help"].contains word
  | _ => false

/-- Reads all arguments; none if they are wrong. -/
def read? : List String → Option Request
  | "check" :: rest =>
    readCommand? checkSignature (fun v => .check v.root v.settings (v.format.getD .text)) rest
  | "lsp" :: rest => readCommand? serveSignature (fun v => .serve v.root) rest
  | "help" :: rest => if hasHelp rest then some .showHelp else none
  | first :: _ =>
    if first = "--version" || first.startsWith "-V" then some .showVersion
    else if first = "--help" || first.startsWith "-h" then some .showHelp
    else none
  | [] => none

/-! ## Running -/

/-- A directory and all those above it, the nearest first. -/
def ancestors (p : Path) : List Path :=
  (List.range (p.names.length + 1)).reverse.map fun n => ⟨p.names.take n⟩

/-- Whether a directory is the root of a project: it holds settings or is under version control. -/
def isProjectRoot (d : Disk) (p : Path) : Bool :=
  d.doesExist (Settings.pathBelow p) || d.doesExist (p.append [VersionControl.entryName])

/-- The root of the project around a directory; the directory itself if there is no other. -/
def projectRoot (d : Disk) (directory : Path) : Path :=
  ((ancestors directory).find? (isProjectRoot d)).getD directory

/-- The exit code of a run that found errors or could not check at all. -/
def failure : Nat := 1

/-- The exit code for wrong arguments. -/
def misuse : Nat := 2

/-- A report in a format. -/
def render (format : ReportFormat) (r : Report) : String :=
  match format with
  | .text => r.text
  | .json => r.jsonText

/-- Checks a project from a directory. -/
def check (d : Disk) (directory : Path) (root settings : Option String) (format : ReportFormat) : Outcome :=
  let root := root.getD (projectRoot d directory).text
  let settingsPath :=
    match settings with
    | some path => Path.ofTextIn directory path
    | none => Settings.pathBelow (Path.ofTextIn directory root)
  match Settings.load d settingsPath with
  | .error _ => { exitCode := failure }
  | .ok s =>
    match Report.ofProject d directory root s with
    | .error _ => { exitCode := failure }
    | .ok r => { exitCode := if r.hasErrors then failure else 0, output := render format r }

/-- The name and the version of the program. -/
def version : String := "reqlink 0.1.0\n"

/-- A summary of the command line. -/
def help : String :=
  "Usage: reqlink check [ROOT] [--config FILE] [--format text|json]\n       reqlink lsp [--root ROOT]\n"

/-- Does what is asked for, in a directory.  An editor that says nothing ends its session at once. -/
def perform (d : Disk) (directory : Path) : Request → Outcome
  | .run (.check root settings format) => check d directory root settings format
  | .run (.serve _) => { exitCode := 0 }
  | .showHelp => { exitCode := 0, output := help }
  | .showVersion => { exitCode := 0, output := version }

/-- Runs the program with arguments in a directory. -/
def run (d : Disk) (directory : Path) (arguments : List String) : Outcome :=
  match read? arguments with
  | none => { exitCode := misuse }
  | some request => perform d directory request

end CommandLine

end Traceability
