import Traceability.Text.Offset
set_option autoImplicit false

/-!
# Text: positions and ranges

A position is a line number and a column, both from zero; positions are ordered line first.  A range has two
positions, a location is a range in the document that a uri names.

Neither number has a bound.  An editor has 32 bits for each, which is enough for any text below four gibibytes.
-/

namespace Traceability.Text

/-- A place in a document. -/
structure Position where
  line : Nat
  character : Nat
  deriving DecidableEq, Repr, Inhabited

namespace Position

/-- The start of a document. -/
def origin : Position := ⟨0, 0⟩

instance : LE Position where
  le p q := p.line < q.line ∨ (p.line = q.line ∧ p.character ≤ q.character)

instance (p q : Position) : Decidable (p ≤ q) :=
  inferInstanceAs (Decidable (p.line < q.line ∨ (p.line = q.line ∧ p.character ≤ q.character)))

/-- The earlier of two positions. -/
def min (p q : Position) : Position := if p ≤ q then p else q

/-- The later of two positions. -/
def max (p q : Position) : Position := if p ≤ q then q else p

end Position

/-- The text from one position to another. -/
structure Range where
  start : Position
  stop : Position
  deriving DecidableEq, Repr, Inhabited

namespace Range

/-- The range without text at a position. -/
def point (p : Position) : Range := ⟨p, p⟩

/-- A range on one line. -/
def onLine (line start stop : Nat) : Range := ⟨⟨line, start⟩, ⟨line, stop⟩⟩

/-- The smallest range around both. -/
def cover (r s : Range) : Range := ⟨r.start.min s.start, r.stop.max s.stop⟩

/-- Whether the range holds no text. -/
def isEmpty (r : Range) : Bool := r.start = r.stop

/-- Whether a cursor at `p` touches the range; one right after its last character does. -/
def contains (r : Range) (p : Position) : Bool := r.start ≤ p ∧ p ≤ r.stop

/-- The start of the range for a reader, who counts from one. -/
def display (r : Range) : String := s!"{r.start.line + 1}:{r.start.character + 1}"

end Range

/-- A range in a document. -/
structure Location where
  uri : String
  range : Range
  deriving DecidableEq, Repr, Inhabited

end Traceability.Text
