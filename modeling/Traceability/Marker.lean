import Traceability.Extraction
set_option autoImplicit false

/-!
# Markers in plain files

Any file may claim to implement requirements: a marker that stands as a word of its own is followed by a list
of identifiers with commas between them.  The list ends at the first thing that is no identifier, or that no
comma follows.  Dots at the end of an item end a sentence and do not belong to the identifier.
-/

namespace Traceability.Marker

open Text Document

/-- The marker that is looked for unless another one is set. -/
def standard : String := "$$Implements"

/-- The places of a marker in the rest of a line, of which the first `place` characters have been read.
Occurrences do not overlap. -/
def occurrences (marker : List Char) (place : Nat) (rest : List Char) : List Nat :=
  if marker = [] then []
  else
    match h : breakOn marker rest with
    | none => []
    | some (before, after) =>
      have : rest.length = before.length + marker.length + after.length := by
        rw [breakOn_eq_append h, List.length_append, List.length_append]
      let start := place + before.length
      start :: occurrences marker (start + marker.length) after
termination_by rest.length
decreasing_by
  have : 0 < marker.length := List.length_pos_iff.2 ‹_›
  omega

/-- An identifier and its place on the line. -/
structure Item where
  place : Nat
  id : List Char
  deriving DecidableEq, Repr, Inhabited

/-- What follows the run of identifier characters that comes next. -/
def afterRun (rest : List Char) : List Char := (trimStart rest).dropWhile isIdentifierChar

theorem length_trimStart_afterRun_le (rest : List Char) :
    (trimStart (afterRun rest)).length ≤ rest.length :=
  ((List.dropWhile_sublist _).trans ((List.dropWhile_sublist _).trans (List.dropWhile_sublist _))).length_le

/-- The items of a list that starts at the place `place`. -/
def itemsFrom (place : Nat) (rest : List Char) : List Item :=
  let start := place + blanksBefore rest
  let run := (trimStart rest).takeWhile isIdentifierChar
  let id := dropEndWhile (· == '.') run
  if isIdentifier id then
    match h : trimStart (afterRun rest) with
    | ',' :: later =>
      have : later.length < rest.length := by
        have := length_trimStart_afterRun_le rest
        rw [h, List.length_cons] at this
        exact this
      ⟨start, id⟩ :: itemsFrom (start + run.length + blanksBefore (afterRun rest) + 1) later
    | _ => [⟨start, id⟩]
  else []
termination_by rest.length

/-- The items after a marker that ends at the place `place`; there are none if no blank follows. -/
def itemsAfter (place : Nat) : List Char → List Item
  | [] => []
  | c :: rest => if isBlank c then itemsFrom (place + 1) rest else []

/-- Whether an occurrence of a marker is the end of a longer word. -/
def endsWord (line : Line) (place : Nat) : Bool := (line.take place).getLast?.any isIdentifierChar

/-- The items of all markers of a line. -/
def itemsOfLine (marker : List Char) (line : Line) : List Item :=
  (occurrences marker 0 line).flatMap fun place =>
    if endsWord line place then []
    else itemsAfter (place + marker.length) (line.drop (place + marker.length))

/-- The claims of a line. -/
def referencesOfLine (uri : String) (marker : List Char) (l : NumberedLine) : List Reference :=
  (itemsOfLine marker l.text).map fun item =>
    ⟨String.ofList item.id, uri, ⟨l.position item.place, l.position (item.place + item.id.length)⟩⟩

/-- What a plain file contributes: only claims.  An empty marker finds nothing. -/
def scan (uri text marker : String) : Extraction :=
  { references := (numbered (lines text)).flatMap (referencesOfLine uri marker.toList) }

end Traceability.Marker
