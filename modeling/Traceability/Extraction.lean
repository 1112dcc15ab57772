import Traceability.Document.Reading
import Traceability.Finding
set_option autoImplicit false

/-!
# Extraction

What one file contributes to a project: the requirements it defines, its claims to implement requirements,
and what is wrong with it by itself.  A document is walked block by block.  A link must belong to something:
its list directly follows a title, a heading or a requirement, and no plain item stands before the link.
-/

namespace Traceability

open Text Document

/-- A requirement and where it is defined. -/
structure Definition where
  id : String
  uri : String
  /-- The whole declaration. -/
  range : Range
  /-- The id alone. -/
  idRange : Range
  deriving DecidableEq, Repr, Inhabited

/-- A claim that something implements a requirement. -/
structure Reference where
  id : String
  uri : String
  range : Range
  deriving DecidableEq, Repr, Inhabited

/-- Where the requirement is declared. -/
def Definition.location (d : Definition) : Location := ⟨d.uri, d.range⟩

/-- Where the claim is made. -/
def Reference.location (r : Reference) : Location := ⟨r.uri, r.range⟩

/-- What was found in one file. -/
structure Extraction where
  subject : Option String := none
  definitions : List Definition := []
  references : List Reference := []
  findings : List Finding := []
  deriving DecidableEq, Repr, Inhabited

namespace Extraction

/-! ## Definitions and references -/

/-- What a block defines: a requirement its id, a heading its only italic phrase. -/
def definitionsOf (uri : String) : Block → List Definition
  | .requirement range id _ => [⟨String.ofList id.text, uri, range, id.range⟩]
  | .heading _ _ [phrase] => [⟨String.ofList phrase.text, uri, phrase.range, phrase.range⟩]
  | _ => []

/-- The claims of an item; all of them stand at the item. -/
def referencesOfItem (uri : String) : ListItem → List Reference
  | .text _ => []
  | .link range targets => targets.ids.map fun id => ⟨String.ofList id, uri, range⟩

/-- The claims of a block. -/
def referencesOf (uri : String) : Block → List Reference
  | .list _ items => items.flatMap (referencesOfItem uri)
  | _ => []

/-! ## Subject and findings -/

/-- The subject that a block gives to its document. -/
def subjectOf? : Block → Option (List Char)
  | .title _ (phrase :: _) => some phrase.text
  | _ => none

/-- The findings of the items of a list, where `attached` says whether a link may stand here. -/
def itemFindings : (attached : Bool) → List ListItem → List Finding
  | _, [] => []
  | _, .text _ :: rest => itemFindings false rest
  | true, .link _ _ :: rest => itemFindings true rest
  | false, .link range _ :: rest => .linkPlacement range :: itemFindings false rest

/-- The finding of a requirement that is not about the subject. -/
def mismatch (subject : Option (List Char)) (clause : Option Phrase) : List Finding :=
  match subject, clause with
  | some subject, some clause =>
    if (plainText subject).isSuffixOf (plainText clause.text) then []
    else [.subjectMismatch (String.ofList subject) clause.range]
  | _, _ => []

/-- The findings of the blocks still to be walked, given the subject so far and whether a link may stand
here. -/
def walk (subject : Option (List Char)) (attached : Bool) : List Block → List Finding
  | [] => if subject.isNone then [.missingSubject] else []
  | block@(.title _ _) :: rest => walk (subject <|> subjectOf? block) true rest
  | .heading _ range phrases :: rest =>
    (if 1 < phrases.length then [.multipleInformalIdentifiers range] else []) ++ walk subject true rest
  | .requirement _ _ clause :: rest => mismatch subject clause ++ walk subject true rest
  | .sentence _ :: rest => walk subject false rest
  | .list _ items :: rest => itemFindings attached items ++ walk subject false rest

/-! ## Documents -/

/-- What a document contributes.  Its syntax faults come first; their words are kept in remarks if
`remarkUri` is given. -/
def ofDocument (uri : String) (document : Document) (remarkUri : Option String) : Extraction :=
  { subject := (document.blocks.findSome? subjectOf?).map String.ofList
    definitions := document.blocks.flatMap (definitionsOf uri)
    references := document.blocks.flatMap (referencesOf uri)
    findings := document.faults.map (·.toFinding remarkUri) ++ walk none false document.blocks }

/-- What the text of a document contributes. -/
def ofText (uri text : String) (remarkUri : Option String) : Extraction :=
  ofDocument uri (Document.ofText text) remarkUri

end Extraction

end Traceability
