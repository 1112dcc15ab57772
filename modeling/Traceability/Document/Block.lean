import Traceability.Text.Range
set_option autoImplicit false

/-!
# Documents: blocks

A requirement document is a sequence of blocks: its title, headings, sentences of prose, requirements, and
lists, whose items may be implementation links.
-/

namespace Traceability.Document

open Text

/-- Emphasised text and where it stands, without its markers. -/
structure Phrase where
  text : List Char
  range : Range
  deriving DecidableEq, Repr, Inhabited

/-- What an implementation link points at. -/
inductive Targets where
  /-- One phrase of free text. -/
  | phrase (target : Phrase)
  /-- Identifiers, all of which are implemented. -/
  | identifiers (targets : List Phrase)
  deriving DecidableEq, Repr, Inhabited

/-- The ids of the requirements that a link claims to implement. -/
def Targets.ids : Targets → List (List Char)
  | phrase target => [target.text]
  | identifiers targets => targets.map Phrase.text

/-- An item of a list. -/
inductive ListItem where
  | text (range : Range)
  | link (range : Range) (targets : Targets)
  deriving DecidableEq, Repr, Inhabited

/-- The range of an item, from its content to its last inked character. -/
def ListItem.range : ListItem → Range
  | text range => range
  | link range _ => range

/-- A block of a document. -/
inductive Block where
  /-- The first line; its italic phrases, the first of which is the subject of the document. -/
  | title (range : Range) (phrases : List Phrase)
  /-- A heading and its italic phrases; a single one names a requirement informally. -/
  | heading (level : Nat) (range : Range) (phrases : List Phrase)
  /-- A paragraph of prose. -/
  | sentence (range : Range)
  /-- A paragraph that begins with a bold identifier; the text from there to the keyword, if there is one. -/
  | requirement (range : Range) (id : Phrase) (subject : Option Phrase)
  | list (range : Range) (items : List ListItem)
  deriving DecidableEq, Repr, Inhabited

/-- The range of a block. -/
def Block.range : Block → Range
  | title range _ => range
  | heading _ range _ => range
  | sentence range => range
  | requirement range _ _ => range
  | list range _ => range

end Traceability.Document
