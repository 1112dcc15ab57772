import Traceability.Session.Message
import Traceability.Settings.Reading
import Traceability.Word
import Traceability.Workspace
set_option autoImplicit false

/-!
# Editor sessions

A session keeps the index of a project in step with an editor.  The text of an open document counts in place of
the file on the disk.  After every event the findings of all documents that it may concern are sent again: those
of the document itself first, then those of the documents linked to it, before or after the event, in the order
of their uris.  Each event is done with before the next one comes.
-/

namespace Traceability

open Text

/-- How far a session has come. -/
inductive Stage where
  | fresh
  | running
  | stopped
  deriving DecidableEq, Repr, Inhabited

/-- The state of a session. -/
structure Session where
  stage : Stage := .fresh
  /-- The directory from which relative paths count. -/
  directory : Path
  /-- The root of the project, unless the editor names one. -/
  root : Path
  /-- The files of the project; none if the patterns of its settings are bad. -/
  workspace : Option Workspace := none
  policy : SeverityPolicy := {}
  index : Index := Index.empty {}
  /-- The texts of the open documents. -/
  documents : Std.ExtTreeMap String String := ∅
  /-- The findings that were sent last for each document. -/
  published : Std.ExtTreeMap String (List Finding) := ∅

namespace Session

/-- Sends the findings of a document. -/
def publish (s : Session) (uri : String) (findings : List Finding) : Session × List Message :=
  match Locator.ofText? uri with
  | none => (s, [])
  | some locator =>
    ({ s with published := s.published.insert uri findings },
      [.publish locator.uri
        (findings.map fun f => .ofFinding locator.uri (s.policy.severity uri f.category) f)])

/-- Sends the findings of several documents. -/
def publishAll (s : Session) : List (String × List Finding) → Session × List Message
  | [] => (s, [])
  | (uri, findings) :: rest =>
    let (s, sent) := s.publish uri findings
    let (s, more) := s.publishAll rest
    (s, sent ++ more)

/-- The findings of some documents as the project stands, without those of the document with a uri. -/
def findingsBeside (x : Index) (uri : String) (linked : List String) : List (String × List Finding) :=
  (linked.filter (· != uri)).filterMap fun other => (x.revalidate other).map (other, ·)

/-! ## Documents -/

/-- Takes in the text of a document. -/
def refresh (s : Session) (uri text : String) : Session × List Message :=
  let (index, findings) := s.index.analyze uri text
  let linked := (s.index.linked uri ∪ index.linked uri).toList
  { s with index }.publishAll ((uri, findings) :: findingsBeside index uri linked)

/-- Drops a document. -/
def forget (s : Session) (uri : String) : Session × List Message :=
  let index := s.index.remove uri
  let cleared := (Locator.ofText? uri).toList.map fun locator => Message.publish locator.uri []
  let (s, sent) :=
    { s with index, published := s.published.erase uri }.publishAll
      (findingsBeside index uri (s.index.linked uri).toList)
  (s, cleared ++ sent)

/-- Takes in a document from the disk, or drops it if it is not a readable file of the project.  Nothing happens to a
document that denotes no path at all. -/
def reload (s : Session) (d : Disk) (locator : Locator) : Session × List Message :=
  match locator.pathBytes? with
  | none => (s, [])
  | some bytes =>
    match Path.ofBytes? bytes with
    | none => s.forget locator.uri
    | some path =>
      match d.readText? path with
      | some text =>
        if s.workspace.any (·.isIncluded path) then s.refresh locator.uri text else s.forget locator.uri
      | none => s.forget locator.uri

/-- Takes in the changes of files that are not open. -/
def followChanges (s : Session) (d : Disk) : List FileChange → Session × List Message
  | [] => (s, [])
  | change :: rest =>
    let (s, sent) :=
      if s.documents.contains change.locator.uri then (s, [])
      else if change.deleted then s.forget change.locator.uri
      else s.reload d change.locator
    let (s, more) := s.followChanges d rest
    (s, sent ++ more)

/-! ## The project -/

/-- The bytes of the root that an editor names: its first folder, or its root if it has no folder.  A root that denotes
no path does not count. -/
def namedRoot? (folders : List Locator) (root : Option Locator) : Option (List UInt8) :=
  (folders.head? <|> root).bind Locator.pathBytes?

/-- The root of a project: the one that the editor names, or else the one at hand.  None if the one that counts is not
text. -/
def projectRoot? (root : Path) (folders : List Locator) (named : Option Locator) : Option Path :=
  match namedRoot? folders named with
  | some bytes => Path.ofBytes? bytes
  | none => some root

/-- Begins with an empty index and the settings of a project. -/
def configure (s : Session) (d : Disk) (root : Option Path) (relatedInformation : Bool) : Session :=
  let settings := Settings.ofProject d root
  let options :=
    { settings.options with
      relatedInformation := settings.options.relatedInformation || relatedInformation }
  { s with
    workspace :=
      match root with
      | some root => (Workspace.create s.directory root.text settings).toOption
      | none => some (Workspace.vacant s.directory)
    policy := SeverityPolicy.ofSettings settings
    index := Index.empty options }

/-- Reads the files of the project and the open documents, and tells the findings of all.  The open documents are read
in the order of their uris, though nothing fixes an order for them: what is defined in two of them has its first
definition in the one with the smaller uri. -/
def loadProject (s : Session) (d : Disk) : Session × List (String × List Finding) :=
  match s.workspace with
  | none => (s, [])
  | some w =>
    let onDisk := (w.loadInto d s.index).1
    let loaded := s.documents.toList.foldl (fun x (uri, text) => x.load uri text) onDisk
    let (index, results) := loaded.validateAll
    ({ s with index }, results)

/-- Reads the project and sends all findings. -/
def begin (s : Session) (d : Disk) : Session × List Message :=
  let (s, results) := s.loadProject d
  let (s, sent) := s.publishAll results
  (s, .watchFiles :: sent ++ [.log "reqlink initialized"])

/-- Changes the severities and sends all findings again.  They are sent in the order of the uris, though nothing fixes
an order for them: no editor may count on it. -/
def setDemotion (s : Session) (demote : Bool) (locator : Option Locator) : Session × List Message :=
  let policy :=
    match locator with
    | some l => s.policy.setUriDemoted l.uri demote
    | none => s.policy.setDemoteErrors demote
  { s with policy }.publishAll s.published.toList

/-! ## Questions -/

/-- The word or phrase at a position of a document, open or on the disk. -/
def wordAt? (s : Session) (d : Disk) (locator : Locator) (position : Position) : Option String := do
  let text ← s.documents[locator.uri]? <|> (locator.path?).bind d.readText?
  let word ← wordAtPosition text position
  return String.ofList word

/-- Where the word at a position is defined. -/
def definitions (s : Session) (d : Disk) (locator : Locator) (position : Position) : List Location :=
  match s.wordAt? d locator position with
  | none => []
  | some word => (s.index.findDefinition word).filterMap standardLocation?

/-- Where the word at a position is mentioned. -/
def references (s : Session) (d : Disk) (locator : Locator) (position : Position) : List Location :=
  match s.wordAt? d locator position with
  | none => []
  | some word => (s.index.findReferences word).filterMap standardLocation?

/-! ## Events -/

/-- What an event does to a session: its answer, if the event is a request, and the messages on the way. -/
structure Turn where
  session : Session
  reply : Option Reply := none
  sent : List Message := []

/-- A turn without an answer. -/
def Turn.silent (outcome : Session × List Message) : Turn := { session := outcome.1, sent := outcome.2 }

/-- What an event does to a running session. -/
def proceed (s : Session) (d : Disk) : Event → Turn
  | .start _ _ _ => { session := s, reply := some .outOfPlace }
  | .started => .silent (s.begin d)
  | .opened locator text =>
    .silent ({ s with documents := s.documents.insert locator.uri text }.refresh locator.uri text)
  | .changed locator texts =>
    match texts.getLast? with
    | none => { session := s }
    | some text =>
      .silent ({ s with documents := s.documents.insert locator.uri text }.refresh locator.uri text)
  | .closed locator => .silent ({ s with documents := s.documents.erase locator.uri }.reload d locator)
  | .filesChanged changes => .silent (s.followChanges d changes)
  | .findDefinition locator position =>
    { session := s, reply := some (.definition (s.definitions d locator position)) }
  | .findReferences locator position withDefinitions =>
    let declared := if withDefinitions then s.definitions d locator position else []
    { session := s, reply := some (.references (declared ++ s.references d locator position)) }
  | .demote demote locator =>
    let (s, sent) := s.setDemotion demote locator
    { session := s, reply := some (.demotion demote), sent }
  | .stop => { session := { s with stage := .stopped }, reply := some .goodbye }

/-- What an event does to a session.  A session must be started first and does nothing after its end; what
then is no request has no effect. -/
def step (s : Session) (d : Disk) (e : Event) : Turn :=
  let refuse (reply : Reply) : Turn := { session := s, reply := if e.isRequest then some reply else none }
  match s.stage, e with
  | .running, _ => s.proceed d e
  | .fresh, .start folders root relatedInformation =>
    let configured := s.configure d (projectRoot? s.root folders root) relatedInformation
    { session := { configured with stage := .running }, reply := some .abilities }
  | .fresh, _ => refuse .tooEarly
  | .stopped, _ => refuse .outOfPlace

end Session

end Traceability
