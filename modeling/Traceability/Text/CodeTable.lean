import Traceability.Text.Digit
import Traceability.Text.Line
set_option autoImplicit false

/-!
# Text: tables of code points

Properties of characters are listed in tables.  An entry is a code point or a range of them, given by its ends, and
may have values.  It is written in hexadecimal digits: `41-5a` is a range, `100-12e/2` is every second code point of
one, and `a8>20+308` has two values.  Where a range has values they are those of its first code point.
-/

namespace Traceability.Text

/-- Some code points from the first to the last one, each by `step` greater than the one before. -/
structure CodeRun where
  first : Nat
  last : Nat
  step : Nat := 1
  /-- What is listed with the first one. -/
  values : List Nat := []
  deriving DecidableEq, Repr, Inhabited

/-- A property of characters. -/
abbrev CodeTable := List CodeRun

namespace CodeRun

/-- Whether a code point is in the run. -/
def contains (r : CodeRun) (n : Nat) : Bool := r.first ≤ n && n ≤ r.last && (n - r.first) % r.step = 0

/-- Reads an entry. -/
def ofText? (text : List Char) : Option CodeRun := do
  let (place, values) ←
    match fields (· == '>') text with
    | [place] => some (place, [])
    | [place, values] => ((fields (· == '+') values).mapM (number? 16)).map (place, ·)
    | _ => none
  let (range, step) ←
    match fields (· == '/') place with
    | [range] => some (range, 1)
    | [range, step] => (number? 16 step).map (range, ·)
    | _ => none
  match ← (fields (· == '-') range).mapM (number? 16) with
  | [only] => some { first := only, last := only, step, values }
  | [first, last] => some { first, last, step, values }
  | _ => none

end CodeRun

namespace CodeTable

/-- Reads the entries of some rows. -/
def ofRows (rows : List String) : CodeTable :=
  rows.flatMap fun row => (words row.toList).filterMap CodeRun.ofText?

/-- Whether a code point is listed. -/
def contains (t : CodeTable) (n : Nat) : Bool := t.any (·.contains n)

/-- The values that are listed for a code point. -/
def values? (t : CodeTable) (n : Nat) : Option (List Nat) := (t.find? (·.contains n)).map CodeRun.values

/-- The values that are listed for a code point, where those of a range go up with its code points. -/
def image? (t : CodeTable) (n : Nat) : Option (List Nat) :=
  (t.find? (·.contains n)).map fun r => r.values.map (· + (n - r.first))

end CodeTable

end Traceability.Text
