import Traceability.Json.Place
import Traceability.Locator.Basic
import Traceability.Severity
set_option autoImplicit false

/-!
# Editor sessions: messages

What an editor and the program say to each other.  The editor sends events, of which some are requests; the
program answers requests and sends messages of its own, above all the findings of each document.
-/

namespace Traceability

open Text

/-! ## Diagnostics -/

/-- A remark as an editor shows it: always about a place. -/
structure PlacedRemark where
  message : String
  location : Location
  deriving DecidableEq, Repr, Inhabited

/-- A finding as an editor shows it. -/
structure EditorDiagnostic where
  category : Category
  severity : Severity
  message : String
  range : Range
  remarks : List PlacedRemark
  deriving DecidableEq, Repr, Inhabited

/-- A location with its uri in standard form; none if the uri cannot be read. -/
def standardLocation? (l : Location) : Option Location :=
  (Locator.ofText? l.uri).map fun locator => ⟨locator.uri, l.range⟩

namespace EditorDiagnostic

/-- A finding in the document with a uri.  A remark without a place is about the finding itself. -/
def ofFinding (uri : String) (severity : Severity) (f : Finding) : EditorDiagnostic :=
  { category := f.category
    severity
    message := f.message
    range := f.range
    remarks := f.remarks.map fun r =>
      ⟨r.message, (r.location.bind standardLocation?).getD ⟨uri, f.range⟩⟩ }

/-- The number of a severity. -/
def severityCode : Severity → Nat
  | .error => 1
  | .warning => 2

/-- A remark as JSON. -/
def remarkJson (r : PlacedRemark) : Json :=
  .object [("location", .ofLocation r.location), ("message", .text r.message)]

/-- A diagnostic as JSON; remarks are left out if there are none. -/
def json (e : EditorDiagnostic) : Json :=
  .object
    ([("range", .ofRange e.range), ("severity", .ofNat (severityCode e.severity)),
        ("code", .text e.category.tag), ("source", .text "reqlink"), ("message", .text e.message)] ++
      if e.remarks.isEmpty then [] else [("relatedInformation", .ofList remarkJson e.remarks)])

end EditorDiagnostic

/-! ## Messages to the editor -/

/-- A message that the program sends unasked. -/
inductive Message where
  /-- Asks to be told about changed files. -/
  | watchFiles
  /-- All findings of a document. -/
  | publish (uri : String) (diagnostics : List EditorDiagnostic)
  /-- A line for the log of the editor. -/
  | log (text : String)
  deriving DecidableEq, Repr, Inhabited

namespace Message

/-- The name of the kind of message. -/
def method : Message → String
  | watchFiles => "client/registerCapability"
  | publish _ _ => "textDocument/publishDiagnostics"
  | log _ => "window/logMessage"

/-- The number that marks a line of a log as plain information. -/
def informationLevel : Nat := 3

/-- What a message says. -/
def parameters : Message → Json
  | watchFiles =>
    let watcher : Json := .object [("globPattern", .text "**/*")]
    let registration : Json :=
      .object
        [("id", .text "reqlink-watched-files"), ("method", .text "workspace/didChangeWatchedFiles"),
          ("registerOptions", .object [("watchers", .array [watcher])])]
    .object [("registrations", .array [registration])]
  | publish uri diagnostics =>
    .object [("uri", .text uri), ("diagnostics", .ofList EditorDiagnostic.json diagnostics)]
  | log text => .object [("type", .ofNat informationLevel), ("message", .text text)]

end Message

/-! ## Answers -/

/-- The answer to a request. -/
inductive Reply where
  /-- What the program can do. -/
  | abilities
  /-- Where something is defined. -/
  | definition (found : List Location)
  /-- Where something is mentioned. -/
  | references (found : List Location)
  | demotion (demote : Bool)
  | goodbye
  /-- The session has not begun. -/
  | tooEarly
  /-- The request does not fit the state of the session. -/
  | outOfPlace
  deriving DecidableEq, Repr, Inhabited

namespace Reply

/-- What the program can do: find definitions and references, and keep whole documents in step. -/
def abilitiesJson : Json :=
  .object
    [("capabilities",
        .object [("textDocumentSync", .ofNat 1), ("definitionProvider", .bool true),
          ("referencesProvider", .bool true)]),
      ("serverInfo", .object [("name", .text "reqlink"), ("version", .text "0.1.0")])]

/-- The result of a request, or the number and the words of an error. -/
def result : Reply → Except (Int × String) Json
  | abilities => .ok abilitiesJson
  | definition [] => .ok .null
  | definition [only] => .ok (.ofLocation only)
  | definition found => .ok (.ofList .ofLocation found)
  | references [] => .ok .null
  | references found => .ok (.ofList .ofLocation found)
  | demotion demote => .ok (.bool demote)
  | goodbye => .ok .null
  | tooEarly => .error (-32002, "Server not initialized")
  | outOfPlace => .error (-32600, "Invalid request")

end Reply

/-! ## Events -/

/-- A file that changed on the disk. -/
structure FileChange where
  locator : Locator
  /-- Whether it is gone. -/
  deleted : Bool
  deriving DecidableEq, Repr, Inhabited

/-- What an editor tells. -/
inductive Event where
  /-- Asks to begin a session, with the folders and the root that are open, and whether remarks are shown. -/
  | start (folders : List Locator) (root : Option Locator) (relatedInformation : Bool)
  /-- The editor is ready. -/
  | started
  | opened (locator : Locator) (text : String)
  /-- A document was changed; each text is the whole document. -/
  | changed (locator : Locator) (texts : List String)
  | closed (locator : Locator)
  | filesChanged (changes : List FileChange)
  /-- Asks where the word at a position is defined. -/
  | findDefinition (locator : Locator) (position : Position)
  /-- Asks where the word at a position is mentioned, and perhaps also where it is defined. -/
  | findReferences (locator : Locator) (position : Position) (withDefinitions : Bool)
  /-- Asks to show the findings of one document, or of all, as warnings, or to end this. -/
  | demote (demote : Bool) (locator : Option Locator)
  /-- Asks to end the session. -/
  | stop
  deriving Repr, Inhabited

/-- Whether an event waits for an answer. -/
def Event.isRequest : Event → Bool
  | start _ _ _ => true
  | findDefinition _ _ => true
  | findReferences _ _ _ => true
  | demote _ _ => true
  | stop => true
  | _ => false

end Traceability
