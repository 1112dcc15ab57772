import Traceability.Text.Range
set_option autoImplicit false

/-!
# Documents: chunks of lines

A line alone tells whether it is blank, a heading, a bullet or text.  The lines after it decide how far the
block that it starts reaches: a paragraph takes every following line of text, a list every following bullet
and indented text.  Cutting the lines into such chunks reads each of them once and drops only blank ones.
-/

namespace Traceability.Document

open Text

/-! ## Kinds of lines -/

/-- What a line is.  `content` is the place after the marker and the blanks that follow it. -/
inductive LineKind where
  | blank
  | heading (level content : Nat)
  | bullet (content : Nat)
  | text (indented : Bool)
  deriving DecidableEq, Repr, Inhabited

/-- The deepest heading. -/
def maxLevel : Nat := 6

/-- The number of blanks in front. -/
def blanksBefore (s : List Char) : Nat := (s.takeWhile isBlank).length

/-- The kind of a line.  A marker with nothing but blanks after it has its content at the end of the inked
part of the line. -/
def classify (line : Line) : LineKind :=
  match trimStart line with
  | [] => .blank
  | c :: rest =>
    let indent := blanksBefore line
    let inked := (trimEnd line).length
    let hashes := ((c :: rest).takeWhile (· == '#')).length
    let afterHashes := (c :: rest).dropWhile (· == '#')
    if 1 ≤ hashes && hashes ≤ maxLevel && !startsInked afterHashes then
      .heading hashes (min (indent + hashes + blanksBefore afterHashes) inked)
    else if (c == '*' || c == '-') && !rest.isEmpty && !startsInked rest then
      .bullet (min (indent + 1 + blanksBefore rest) inked)
    else .text (indent != 0)

/-! ## Numbered lines -/

/-- A line and its number in the document, counted from zero. -/
structure NumberedLine where
  number : Nat
  text : Line
  deriving DecidableEq, Repr, Inhabited

namespace NumberedLine

/-- The kind of the line. -/
def kind (l : NumberedLine) : LineKind := classify l.text

/-- The position in front of the character number `place`. -/
def position (l : NumberedLine) (place : Nat) : Position := ⟨l.number, column l.text place⟩

/-- The place of the first inked character. -/
def inkStart (l : NumberedLine) : Nat := blanksBefore l.text

/-- The place after the last inked character. -/
def inkStop (l : NumberedLine) : Nat := (trimEnd l.text).length

/-- Whether the line is text. -/
def isText (l : NumberedLine) : Bool :=
  match l.kind with
  | .text _ => true
  | _ => false

/-- Whether the line is a bullet. -/
def isBullet (l : NumberedLine) : Bool :=
  match l.kind with
  | .bullet _ => true
  | _ => false

/-- Whether the line keeps a list going: another bullet, or indented text that belongs to the item above. -/
def continuesList (l : NumberedLine) : Bool :=
  match l.kind with
  | .bullet _ => true
  | .text indented => indented
  | _ => false

/-- The place where the content of the line starts. -/
def contentStart (l : NumberedLine) : Nat :=
  match l.kind with
  | .heading _ content => content
  | .bullet content => content
  | _ => l.inkStart

end NumberedLine

/-- Lines with their numbers. -/
def numbered (ls : List Line) : List NumberedLine := ls.zipIdx.map fun (text, number) => ⟨number, text⟩

/-! ## Chunks -/

/-- The lines of one block. -/
inductive Chunk where
  | heading (level : Nat) (line : NumberedLine)
  | paragraph (first : NumberedLine) (rest : List NumberedLine)
  /-- A bullet and the lines that keep its list going. -/
  | list (first : NumberedLine) (rest : List NumberedLine)
  deriving DecidableEq, Repr, Inhabited

namespace Chunk

/-- The lines of a chunk, in order. -/
def lines : Chunk → List NumberedLine
  | heading _ line => [line]
  | paragraph first rest => first :: rest
  | list first rest => first :: rest

/-- Cuts lines into chunks. -/
def ofLines : List NumberedLine → List Chunk
  | [] => []
  | l :: rest =>
    match l.kind with
    | .blank => ofLines rest
    | .heading level _ => heading level l :: ofLines rest
    | .bullet _ =>
      list l (rest.takeWhile NumberedLine.continuesList)
        :: ofLines (rest.dropWhile NumberedLine.continuesList)
    | .text _ =>
      paragraph l (rest.takeWhile NumberedLine.isText) :: ofLines (rest.dropWhile NumberedLine.isText)
termination_by ls => ls.length
decreasing_by
  · simp
  · simp
  · have := (List.dropWhile_sublist NumberedLine.continuesList (l := rest)).length_le
    simp only [List.length_cons]
    omega
  · have := (List.dropWhile_sublist NumberedLine.isText (l := rest)).length_le
    simp only [List.length_cons]
    omega

end Chunk

/-! ## Items of a list -/

/-- The bullet of an item and the lines that belong to it. -/
structure ItemLines where
  first : NumberedLine
  rest : List NumberedLine
  deriving DecidableEq, Repr, Inhabited

/-- All lines of an item. -/
def ItemLines.lines (i : ItemLines) : List NumberedLine := i.first :: i.rest

/-- Cuts the lines of a list into items, each with its bullet. -/
def ItemLines.ofList (first : NumberedLine) : List NumberedLine → List ItemLines
  | [] => [⟨first, []⟩]
  | l :: rest =>
    if l.isBullet then ⟨first, []⟩ :: ofList l rest
    else
      match ofList first rest with
      | [] => [⟨first, [l]⟩]
      | item :: others => ⟨item.first, l :: item.rest⟩ :: others

/-- No line of a list is lost or moved. -/
theorem ItemLines.flatMap_ofList (first : NumberedLine) (rest : List NumberedLine) :
    ∃ item others, ofList first rest = item :: others ∧ item.first = first ∧
      (ofList first rest).flatMap lines = first :: rest := by
  induction rest generalizing first with
  | nil => exact ⟨_, _, rfl, rfl, rfl⟩
  | cons l rest ih =>
    unfold ofList
    split
    · obtain ⟨_, _, h, _, hf⟩ := ih l
      refine ⟨_, _, rfl, rfl, ?_⟩
      simp [lines] at hf ⊢
      exact hf
    · obtain ⟨item, others, h, hi, hf⟩ := ih first
      rw [h] at hf ⊢
      refine ⟨_, _, rfl, hi, ?_⟩
      simp [lines] at hf ⊢
      exact ⟨hi, hf.2⟩

end Traceability.Document
