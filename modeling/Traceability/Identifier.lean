import Traceability.Text.Line
set_option autoImplicit false

/-!
# Identifiers

Requirements carry identifiers such as `Export.HTML`: segments of letters, numbers and underscores, joined by
single dots.  Free-text phrases may also name a requirement, and they are compared as plain text, without
emphasis marks and without regard to spacing.
-/

namespace Traceability

open Text

/-- Whether a character may stand in a segment of an identifier. -/
def isSegmentChar (c : Char) : Bool := isAlphanumeric c || c == '_'

/-- Whether a character may stand anywhere in an identifier. -/
def isIdentifierChar (c : Char) : Bool := isSegmentChar c || c == '.'

/-- Whether a text is a dotted sequence of segments, none of them empty. -/
def isIdentifier (s : List Char) : Bool :=
  (fields (· == '.') s).all fun segment => !segment.isEmpty && segment.all isSegmentChar

/-- A text without emphasis marks, with one space between its words. -/
def plainText (s : List Char) : List Char := collapse (s.filter (· ≠ '*'))

theorem isIdentifier_nil : isIdentifier [] = false := rfl

theorem isIdentifierChar_of_isSegmentChar {c : Char} (h : isSegmentChar c = true) :
    isIdentifierChar c = true := by
  simp [isIdentifierChar, h]

end Traceability
