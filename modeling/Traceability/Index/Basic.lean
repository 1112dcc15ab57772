import Std.Data.ExtTreeSet
import Traceability.Index.Ledger
import Traceability.Marker
set_option autoImplicit false

/-!
# Index: what a project defines and claims

The index holds what every file of a project contributes, and two ledgers over all files: who defines an id,
and who refers to it.  Analysing a file replaces all that it contributed before.

Findings that depend on other files make sense only once all files are known.  Until the project has been
validated for the first time, the first analysis of a file leaves them out.
-/

namespace Traceability

open Text

/-! ## Options and kinds of files -/

/-- How a file is read. -/
inductive FileKind where
  /-- As a requirement document. -/
  | document
  /-- As a plain file that may hold markers. -/
  | plain
  deriving DecidableEq, Repr, Inhabited

/-- What can be set about the analysis. -/
structure Options where
  /-- Whether findings carry remarks about other places. -/
  relatedInformation : Bool := false
  /-- The extensions of requirement documents. -/
  documentExtensions : List String := ["shalldn"]
  /-- The marker that introduces claims in plain files. -/
  marker : String := Marker.standard
  deriving DecidableEq, Repr, Inhabited

/-- The text after the last dot of the last segment of a uri, whose query and fragment do not count. -/
def extension? (uri : String) : Option (List Char) :=
  let path := uri.toList.takeWhile fun c => c != '?' && c != '#'
  let name := (fields (· == '/') path).getLast?.getD []
  match fields (· == '.') name with
  | [] | [_] => none
  | _ :: rest => rest.getLast?

/-- Whether two texts are the same, the case of ASCII letters apart. -/
def sameIgnoringCase (s t : List Char) : Bool := s.map Char.toLower = t.map Char.toLower

/-- The kind of the file that a uri names, by its extension. -/
def Options.fileKind (o : Options) (uri : String) : FileKind :=
  match extension? uri with
  | none => .plain
  | some extension =>
    if o.documentExtensions.any fun e => sameIgnoringCase (e.toList.dropWhile (· == '.')) extension then
      .document
    else .plain

/-! ## The index -/

/-- What one file contributes. -/
structure FileRecord where
  kind : FileKind
  subject : Option String := none
  definitions : List Definition := []
  references : List Reference := []
  /-- The findings of the file by itself. -/
  findings : List Finding := []
  deriving DecidableEq, Repr, Inhabited

/-- Whether the whole project is known. -/
inductive Phase where
  | loading
  | ready
  deriving DecidableEq, Repr, Inhabited

/-- All contributions to a project, by file and by id. -/
structure Index where
  options : Options
  phase : Phase
  definitions : Ledger Definition
  references : Ledger Reference
  files : Std.ExtTreeMap String FileRecord

/-- What became of a definition. -/
inductive DefinitionOutcome where
  | added
  /-- It was added, but its id was defined before; the location is that of the first definition. -/
  | duplicate (id : String) (first : Location)
  /-- It was not added, as it has no id. -/
  | missingIdentifier
  deriving DecidableEq, Repr, Inhabited

/-- The words for a definition that is not the only one of its id. -/
def DefinitionOutcome.message? : DefinitionOutcome → Option String
  | added => none
  | duplicate id _ => some (Finding.duplicateIdentifierMessage id)
  | missingIdentifier => some Finding.missingIdentifierMessage

namespace Index

/-- The index of an empty project. -/
def empty (options : Options) : Index := ⟨options, .loading, ∅, ∅, ∅⟩

instance : Inhabited Index := ⟨empty default⟩

/-! ## Queries -/

/-- Where an id is defined, in order. -/
def findDefinition (x : Index) (id : String) : List Location :=
  (x.definitions.entries id).map Definition.location

/-- Where an id is claimed to be implemented, in order. -/
def findReferences (x : Index) (id : String) : List Location :=
  (x.references.entries id).map Reference.location

/-- The record of a file. -/
def file? (x : Index) (uri : String) : Option FileRecord := x.files[uri]?

/-- The subject of a document. -/
def subject? (x : Index) (uri : String) : Option String := (x.file? uri).bind FileRecord.subject

/-- The record of a file, or one without contributions. -/
def fileOrFresh (x : Index) (uri : String) : FileRecord :=
  (x.file? uri).getD { kind := x.options.fileKind uri }

/-! ## Contributions -/

/-- Adds a definition to the ledger and to the record of its file. -/
def insertDefinition (x : Index) (d : Definition) : Index :=
  let record := x.fileOrFresh d.uri
  { x with
    definitions := x.definitions.push d.id d
    files := x.files.insert d.uri { record with definitions := record.definitions ++ [d] } }

/-- Adds a reference to the ledger and to the record of its file. -/
def insertReference (x : Index) (r : Reference) : Index :=
  let record := x.fileOrFresh r.uri
  { x with
    references := x.references.push r.id r
    files := x.files.insert r.uri { record with references := record.references ++ [r] } }

/-- Registers a definition.  One of an id that is already defined is added all the same. -/
def addDefinition (x : Index) (d : Definition) : Index × DefinitionOutcome :=
  if d.id.isEmpty then (x, .missingIdentifier)
  else
    match x.findDefinition d.id with
    | [] => (x.insertDefinition d, .added)
    | first :: _ => (x.insertDefinition d, .duplicate d.id first)

/-- Registers a reference for each id, all of them at one place. -/
def addReferences (x : Index) (uri : String) (range : Range) (ids : List String) : Index :=
  ids.foldl (fun x id => x.insertReference ⟨id, uri, range⟩) x

/-- Takes what a file contributed out of the ledgers. -/
def purge (x : Index) (uri : String) : Index :=
  match x.file? uri with
  | none => x
  | some record =>
    { x with
      definitions := record.definitions.foldl (fun l d => l.prune d.id (·.uri == uri)) x.definitions
      references := record.references.foldl (fun l r => l.prune r.id (·.uri == uri)) x.references }

/-- Drops a file and all that it contributed. -/
def remove (x : Index) (uri : String) : Index :=
  let purged := x.purge uri
  { purged with files := purged.files.erase uri }

/-- What the text of a file contributes by itself. -/
def extract (x : Index) (uri text : String) : Extraction :=
  match x.options.fileKind uri with
  | .document => Extraction.ofText uri text (if x.options.relatedInformation then some uri else none)
  | .plain => Marker.scan uri text x.options.marker

/-- Registers the definitions of a file; also tells which of them have no id. -/
def addDefinitions (x : Index) (ds : List Definition) : Index × List Finding :=
  ds.foldl
    (fun (x, findings) d =>
      match x.addDefinition d with
      | (x, .missingIdentifier) => (x, findings ++ [.missingIdentifier d.range])
      | (x, _) => (x, findings))
    (x, [])

/-- Registers a file in place of what it contributed before, without looking at other files. -/
def load (x : Index) (uri text : String) : Index :=
  let extraction := x.extract uri text
  let purged := x.purge uri
  let fresh : FileRecord := { kind := x.options.fileKind uri, subject := extraction.subject }
  let started := { purged with files := purged.files.insert uri fresh }
  let (defined, missing) := started.addDefinitions extraction.definitions
  let referred := extraction.references.foldl insertReference defined
  let record := { referred.fileOrFresh uri with findings := extraction.findings ++ missing }
  { referred with files := referred.files.insert uri record }

/-! ## Findings -/

/-- Whether a definition is the first of its id. -/
def isFirst (first d : Definition) : Bool := first.uri == d.uri && first.idRange == d.idRange

/-- A finding for each definition of a file that is not the first of its id. -/
def duplicates (x : Index) (uri : String) : List Finding :=
  (x.fileOrFresh uri).definitions.filterMap fun d =>
    match x.definitions.entries d.id with
    | [] => none
    | first :: _ =>
      if isFirst first d then none
      else
        some { Finding.duplicateIdentifier d.id d.idRange with
          remarks :=
            if x.options.relatedInformation then [⟨"First defined here", some first.location⟩] else [] }

/-- The findings of a file that depend on other files: its references to undefined ids, and its definitions
to which nothing refers. -/
def consistency (x : Index) (uri : String) : List Finding :=
  let record := x.fileOrFresh uri
  ((record.references.filter fun r => !x.definitions.contains r.id).map fun r =>
      .unresolvedReference r.id r.range) ++
    ((record.definitions.filter fun d => !x.references.contains d.id).map fun d =>
      .noImplementation d.id d.idRange)

/-- All findings of a file as the project stands; none for an unknown file. -/
def revalidate (x : Index) (uri : String) : Option (List Finding) :=
  (x.file? uri).map fun record => record.findings ++ x.duplicates uri ++ x.consistency uri

/-- Registers a file and tells its findings.  Those that depend on other files are left out if the file is
new to a project that is still being loaded. -/
def analyze (x : Index) (uri text : String) : Index × List Finding :=
  let loaded := x.load uri text
  let own := (loaded.fileOrFresh uri).findings ++ loaded.duplicates uri
  if x.phase = .ready || x.files.contains uri then (loaded, own ++ loaded.consistency uri)
  else (loaded, own)

/-- Ends the loading of the project and tells the findings of every file, in the order of their uris. -/
def validateAll (x : Index) : Index × List (String × List Finding) :=
  let ready := { x with phase := .ready }
  (ready, ready.files.keys.filterMap fun uri => (ready.revalidate uri).map (uri, ·))

/-- The files whose findings may depend on a file: those that refer to its definitions, that define its ids
too, or that define what it refers to. -/
def linked (x : Index) (uri : String) : Std.ExtTreeSet String :=
  match x.file? uri with
  | none => ∅
  | some record =>
    let referring := record.definitions.flatMap fun d => (x.references.entries d.id).map Reference.uri
    let redefining := record.definitions.flatMap fun d =>
      ((x.definitions.entries d.id).filter (·.uri != uri)).map Definition.uri
    let defining := record.references.flatMap fun r => (x.definitions.entries r.id).map Definition.uri
    Std.ExtTreeSet.ofList (referring ++ redefining ++ defining)

end Index

end Traceability
