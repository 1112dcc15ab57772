import Traceability.Document.Fault
import Traceability.Text.Range
set_option autoImplicit false

/-!
# Findings

A finding says what is wrong where.  Its category is a stable tag, from which a reader or a policy may decide
how grave it is; the finding itself has no severity.  All wording stands in this module.
-/

namespace Traceability

open Text

/-- What kind of thing is wrong. -/
inductive Category where
  /-- A syntax fault. -/
  | syntaxError
  /-- A misplaced link, or a missing or ambiguous identifier. -/
  | structuralPlacement
  /-- A requirement about something other than the subject, or no subject at all. -/
  | subjectMismatch
  /-- A further definition of an id. -/
  | duplicateIdentifier
  /-- A reference to an id that nothing defines. -/
  | unresolvedReference
  /-- A definition to which nothing refers. -/
  | noImplementation
  deriving DecidableEq, Repr, Inhabited

namespace Category

/-- All categories. -/
def all : List Category :=
  [syntaxError, structuralPlacement, subjectMismatch, duplicateIdentifier, unresolvedReference,
    noImplementation]

/-- The stable tag of a category. -/
def tag : Category → String
  | syntaxError => "syntax-error"
  | structuralPlacement => "structural-placement"
  | subjectMismatch => "subject-mismatch"
  | duplicateIdentifier => "duplicate-identifier"
  | unresolvedReference => "unresolved-reference"
  | noImplementation => "no-implementation"

/-- The category with a tag. -/
def ofTag? (tag : String) : Option Category := all.find? fun c => c.tag = tag

/-- Whether such a finding depends on other files. -/
def isCrossFile : Category → Bool
  | unresolvedReference => true
  | noImplementation => true
  | _ => false

theorem ofTag?_tag (c : Category) : ofTag? c.tag = some c := by
  cases c <;> rfl

end Category

/-- Something to add to a finding, and where to look if it is about a place. -/
structure Remark where
  message : String
  location : Option Location
  deriving DecidableEq, Repr, Inhabited

/-- Something wrong in a file. -/
structure Finding where
  category : Category
  message : String
  range : Range
  remarks : List Remark := []
  deriving DecidableEq, Repr, Inhabited

namespace Finding

/-- The finding for a fault at a column of a line that is counted from one.  The words of the fault go into a
remark, if the uri of the document is given. -/
def syntaxFault (line column : Nat) (token : Option (List Char)) (message : String) (uri : Option String) :
    Finding :=
  let range := Range.onLine (line - 1) column (column + (token.map utf16Length).getD 0)
  { category := .syntaxError
    message := "Syntax error"
    range
    remarks := (uri.map fun u => ⟨message, some ⟨u, range⟩⟩).toList }

/-- A link that belongs to nothing. -/
def linkPlacement (range : Range) : Finding :=
  { category := .structuralPlacement
    message := "Implementation link in a list that does not immediately follow a requirement or heading"
    range }

/-- A heading with several italic phrases. -/
def multipleInformalIdentifiers (range : Range) : Finding :=
  { category := .structuralPlacement
    message := "Heading shall have a single italicized phrase as an informal requirement identifier"
    range }

/-- The words for a definition without an id. -/
def missingIdentifierMessage : String := "Requirement without identifier"

/-- A definition without an id. -/
def missingIdentifier (range : Range) : Finding :=
  { category := .structuralPlacement
    message := missingIdentifierMessage
    range }

/-- A requirement about something other than the subject of its document. -/
def subjectMismatch (subject : String) (range : Range) : Finding :=
  { category := .subjectMismatch
    message := s!"The requirement subject is different from the document subject {subject}."
    range }

/-- A document without a subject. -/
def missingSubject : Finding :=
  { category := .subjectMismatch
    message := "No subject defined in the document."
    range := Range.point Position.origin
    remarks := [⟨"The subject of the document is defined by the only italicized group of words " ++
      "in the first line of the document", none⟩] }

/-- The words for a further definition of an id. -/
def duplicateIdentifierMessage (id : String) : String := s!"Requirement with id {id} already exists"

/-- A further definition of an id. -/
def duplicateIdentifier (id : String) (range : Range) : Finding :=
  { category := .duplicateIdentifier
    message := duplicateIdentifierMessage id
    range }

/-- A reference to an id that nothing defines. -/
def unresolvedReference (id : String) (range : Range) : Finding :=
  { category := .unresolvedReference
    message := s!"Implementation of non-existing requirement {id}"
    range }

/-- A definition to which nothing refers. -/
def noImplementation (id : String) (range : Range) : Finding :=
  { category := .noImplementation
    message := s!"Requirement {id} does not have implementation"
    range }

end Finding

/-- The finding for a syntax fault. -/
def Document.SyntaxFault.toFinding (f : Document.SyntaxFault) (uri : Option String) : Finding :=
  .syntaxFault f.line f.column f.token f.cause.message uri

end Traceability
