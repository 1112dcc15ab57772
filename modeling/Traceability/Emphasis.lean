import Traceability.Text.Line
set_option autoImplicit false

/-!
# Emphasis

A text is emphasised between two equal markers: single asterisks for italics, double ones for bold.  A marker
opens emphasis only if the next character is no blank; otherwise it is a bullet or a literal asterisk.
-/

namespace Traceability

open Text

/-- The two kinds of emphasis. -/
inductive Emphasis where
  | italic
  | bold
  deriving DecidableEq, Repr, Inhabited

namespace Emphasis

/-- What stands on both sides of the emphasised text. -/
def marker : Emphasis → List Char
  | italic => ['*']
  | bold => ['*', '*']

/-- The number of characters of the marker. -/
def width (e : Emphasis) : Nat := e.marker.length

/-- The kind of the marker of which the first asterisk has been read, and what follows the marker. -/
def opening : List Char → Emphasis × List Char
  | '*' :: inner => (bold, inner)
  | inner => (italic, inner)

theorem length_opening_le (rest : List Char) : (opening rest).2.length ≤ rest.length := by
  unfold opening
  split
  · simp
  · simp

theorem marker_append_opening (rest : List Char) :
    (opening rest).1.marker ++ (opening rest).2 = '*' :: rest := by
  unfold opening
  split <;> simp [marker]

end Emphasis

end Traceability
