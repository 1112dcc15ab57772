import Traceability.Document.Block
import Traceability.Document.Chunk
import Traceability.Document.Fault
import Traceability.Document.Span
import Traceability.Identifier
set_option autoImplicit false

/-!
# Documents: reading

A document is read chunk by chunk.  Each chunk becomes one block, whatever is wrong with it, and its faults
follow in this order: first those of cutting its lines into spans, then those of the block itself; in a list
this holds item by item.
-/

namespace Traceability.Document

open Text

/-- The word that makes a paragraph with an identifier a requirement, in any case. -/
def keyword : List Char := ['s', 'h', 'a', 'l', 'l']

/-- The word with which an implementation link begins. -/
def linkWord : List Char := ['I', 'm', 'p', 'l', 'e', 'm', 'e', 'n', 't', 's']

/-- Something read from a document, with the faults met on the way. -/
structure Reading (α : Type) where
  value : α
  faults : List SyntaxFault
  deriving DecidableEq, Repr, Inhabited

/-! ## Places in several lines -/

/-- A place in a document. -/
structure Cursor where
  line : NumberedLine
  place : Nat
  deriving DecidableEq, Repr, Inhabited

namespace Cursor

/-- The position that an editor shows. -/
def position (c : Cursor) : Position := c.line.position c.place

/-- A fault at the place. -/
def fault (c : Cursor) (cause : FaultCause) (token : Option (List Char)) : SyntaxFault :=
  ⟨cause, c.line.number + 1, c.position.character, token⟩

end Cursor

/-- The place after the inked part of the last line. -/
def inkEnd (first : NumberedLine) (rest : List NumberedLine) : Cursor :=
  let last := rest.getLast?.getD first
  ⟨last, last.inkStop⟩

/-- The range between two places. -/
def rangeBetween (a b : Cursor) : Range := ⟨a.position, b.position⟩

/-- The text from one place to another, with one space for each line ending.  The lines that lie wholly
between the two places lose their blanks at both ends. -/
def textBetween (ls : List NumberedLine) (a b : Cursor) : List Char :=
  if a.line.number = b.line.number then (a.line.text.take b.place).drop a.place
  else
    let inside := ls.filter fun l => a.line.number < l.number && l.number < b.line.number
    [' '].intercalate
      (a.line.text.drop a.place :: inside.map (fun l => trim l.text) ++ [b.line.text.take b.place])

/-! ## Spans of several lines -/

/-- A span and its line. -/
structure LocatedSpan where
  line : NumberedLine
  span : Span
  deriving DecidableEq, Repr, Inhabited

namespace LocatedSpan

/-- The place of the opening marker. -/
def start (s : LocatedSpan) : Cursor := ⟨s.line, s.span.start⟩

/-- The place after the closing marker. -/
def stop (s : LocatedSpan) : Cursor := ⟨s.line, s.span.stop⟩

/-- The emphasised text as a phrase. -/
def phrase (s : LocatedSpan) : Phrase :=
  ⟨s.span.text, rangeBetween ⟨s.line, s.span.innerStart⟩ ⟨s.line, s.span.innerStop⟩⟩

/-- Whether the span is bold. -/
def isBold (s : LocatedSpan) : Bool := s.span.kind = .bold

/-- Whether the span is the bold keyword. -/
def isKeyword (s : LocatedSpan) : Bool := s.isBold && s.span.text.map Char.toLower = keyword

end LocatedSpan

/-- The spans of one line from a place on. -/
def spansOfLine (c : Cursor) : Reading (List LocatedSpan) :=
  let read := spansOf c.line.text c.place
  { value := read.spans.map (LocatedSpan.mk c.line)
    faults := (read.unterminated.map fun (kind, place) =>
      Cursor.fault ⟨c.line, place⟩ (.unterminated kind) (some kind.marker)).toList }

/-- The spans of several lines, each from a place on. -/
def spansOfLines (cs : List Cursor) : Reading (List LocatedSpan) :=
  ⟨cs.flatMap fun c => (spansOfLine c).value, cs.flatMap fun c => (spansOfLine c).faults⟩

/-- The italic ones of some spans, as phrases. -/
def italicPhrases (spans : List LocatedSpan) : List Phrase :=
  (spans.filter fun s => !s.isBold).map LocatedSpan.phrase

/-! ## Title and headings -/

/-- The range of the content of a line, and its italic phrases. -/
def readContent (l : NumberedLine) : Reading (Range × List Phrase) :=
  let content : Cursor := ⟨l, l.contentStart⟩
  let read := spansOfLine content
  ⟨(rangeBetween content ⟨l, l.inkStop⟩, italicPhrases read.value), read.faults⟩

/-- The first line of a document as its title. -/
def readTitle (l : NumberedLine) : Reading Block :=
  let content := readContent l
  ⟨.title content.value.1 content.value.2, content.faults⟩

/-- A heading. -/
def readHeading (level : Nat) (l : NumberedLine) : Reading Block :=
  let content := readContent l
  ⟨.heading level content.value.1 content.value.2, content.faults⟩

/-! ## Paragraphs -/

/-- Whether a span makes the paragraph that starts with line `first` a requirement: it is a bold identifier,
and nothing but blanks stands before it. -/
def opensRequirement (first : NumberedLine) (s : LocatedSpan) : Bool :=
  s.line.number = first.number && s.isBold && s.span.start = first.inkStart && isIdentifier s.span.text

/-- A paragraph: a requirement or prose. -/
def readParagraph (first : NumberedLine) (rest : List NumberedLine) : Reading Block :=
  let lines := first :: rest
  let read := spansOfLines (lines.map fun l => ⟨l, l.inkStart⟩)
  let stop := inkEnd first rest
  let range := rangeBetween ⟨first, first.inkStart⟩ stop
  match read.value with
  | [] => ⟨.sentence range, read.faults⟩
  | id :: others =>
    if opensRequirement first id then
      match others.find? LocatedSpan.isKeyword with
      | some shall =>
        let subject : Phrase :=
          ⟨textBetween lines id.stop shall.start, rangeBetween id.stop shall.start⟩
        ⟨.requirement range id.phrase (some subject), read.faults⟩
      | none => ⟨.requirement range id.phrase none, read.faults ++ [stop.fault .missingKeyword none]⟩
    else ⟨.sentence range, read.faults⟩

/-! ## Lists -/

/-- Whether the content of an item begins with the link word, as a word of its own. -/
def isLink (content : List Char) : Bool :=
  linkWord.isPrefixOf content && !((content.drop linkWord.length).head?.any isSegmentChar)

/-- The faults of one of several targets. -/
def targetFaults (separated : Bool) (s : LocatedSpan) : List SyntaxFault :=
  (if separated then [] else [s.start.fault .missingComma (some s.span.source)]) ++
    (if isIdentifier s.span.text then [] else [s.start.fault .notIdentifier (some s.span.source)])

/-- Whether only a comma stands between two spans, blanks apart. -/
def separatedByComma (lines : List NumberedLine) (s t : LocatedSpan) : Bool :=
  trim (textBetween lines s.stop t.start) = [',']

/-- The targets of a link from its bold spans.  A single target may be free text, several are identifiers
with commas between them; where they are not, the others still count. -/
def readTargets (start : Cursor) (lines : List NumberedLine) : List LocatedSpan → Reading Targets
  | [] => ⟨.identifiers [], [start.fault .missingTarget (some linkWord)]⟩
  | [s] =>
    if isIdentifier s.span.text then ⟨.identifiers [s.phrase], []⟩
    else ⟨.phrase { s.phrase with text := collapse s.span.text }, []⟩
  | first :: second :: others =>
    let later := second :: others
    { value := .identifiers
        (((first :: later).filter fun s => isIdentifier s.span.text).map LocatedSpan.phrase)
      faults := targetFaults true first ++
        ((first :: later).zip later).flatMap fun (s, t) => targetFaults (separatedByComma lines s t) t }

/-- An item of a list. -/
def readItem (item : ItemLines) : Reading ListItem :=
  let start : Cursor := ⟨item.first, item.first.contentStart⟩
  let read := spansOfLines (start :: item.rest.map fun l => ⟨l, l.inkStart⟩)
  let range := rangeBetween start (inkEnd item.first item.rest)
  if isLink (item.first.text.drop start.place) then
    let targets := readTargets start item.lines (read.value.filter LocatedSpan.isBold)
    ⟨.link range targets.value, read.faults ++ targets.faults⟩
  else ⟨.text range, read.faults⟩

/-- A list. -/
def readList (first : NumberedLine) (rest : List NumberedLine) : Reading Block :=
  let items := (ItemLines.ofList first rest).map readItem
  let range := rangeBetween ⟨first, first.inkStart⟩ (inkEnd first rest)
  ⟨.list range (items.map Reading.value), items.flatMap Reading.faults⟩

/-! ## Documents -/

/-- The block that a chunk of lines makes. -/
def readChunk : Chunk → Reading Block
  | .heading level line => readHeading level line
  | .paragraph first rest => readParagraph first rest
  | .list first rest => readList first rest

/-- The blocks of some lines, none of which is the title. -/
def readBody (ls : List NumberedLine) : List (Reading Block) := (Chunk.ofLines ls).map readChunk

/-- Whether the first line of a document is its title: it is neither blank nor a bullet. -/
def isTitle (l : NumberedLine) : Bool :=
  match l.kind with
  | .blank => false
  | .bullet _ => false
  | _ => true

/-- The blocks of a document. -/
def readLines : List NumberedLine → List (Reading Block)
  | [] => []
  | first :: rest => if isTitle first then readTitle first :: readBody rest else readBody (first :: rest)

end Traceability.Document

namespace Traceability

/-- A document: its blocks in order, and everything in it that makes no sense. -/
structure Document where
  blocks : List Document.Block
  faults : List Document.SyntaxFault
  deriving DecidableEq, Repr, Inhabited

/-- Reads a document from its text. -/
def Document.ofText (text : String) : Document :=
  let read := readLines (numbered (Text.lines text))
  ⟨read.map Reading.value, read.flatMap Reading.faults⟩

end Traceability
