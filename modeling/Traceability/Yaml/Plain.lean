import Traceability.Decimal.Shortest
set_option autoImplicit false

/-!
# YAML: what plain scalars stand for

A scalar without quotes may stand for nothing, for a truth value or for a number; otherwise it is a text.  Whole
numbers of 64 bits are kept as they are, all others as binary numbers.
-/

namespace Traceability.Yaml

/-- What a plain scalar stands for. -/
inductive Plain where
  | null
  | truth (value : Bool)
  /-- A number, as the text that is written for it. -/
  | number (text : List Char)
  | text (text : List Char)
  deriving DecidableEq, Repr, Inhabited

namespace Plain

/-- Whether a whole number has 64 bits, with or without a sign. -/
def isKept (n : Int) : Bool := -0x8000000000000000 ≤ n && n < 0x10000000000000000

/-- The text for a number that a word stands for, without its sign. -/
def specialText? (word : List Char) : Option (List Char) :=
  match String.ofList word with
  | ".inf" | ".Inf" | ".INF" => some ['i', 'n', 'f']
  | ".nan" | ".NaN" | ".NAN" => some ['N', 'a', 'N']
  | _ =>
    match String.ofList (word.map Char.toLower) with
    | "inf" | "infinity" => some ['i', 'n', 'f']
    | "nan" => some ['N', 'a', 'N']
    | _ => none

/-- The text of the number that a scalar stands for, if it stands for one.  What is not a number has no sign. -/
def numberText? (s : List Char) : Option (List Char) :=
  match Decimal.readInteger? s with
  | some n =>
    if isKept n then some (toString n).toList else (Decimal.ofText? s).map Decimal.shortestText
  | none =>
    let (negative, word) := Decimal.readSign s
    match specialText? word with
    | some name => some (if negative && name = ['i', 'n', 'f'] then '-' :: name else name)
    | none => (Decimal.ofText? s).map Decimal.shortestText

/-- What a plain scalar stands for.  The words for nothing and for truth values are read without regard to
case. -/
def ofText (s : List Char) : Plain :=
  match String.ofList (s.map Char.toLower) with
  | "" | "~" | "null" | "nil" | "none" => null
  | "true" | "yes" | "on" | "y" => truth true
  | "false" | "no" | "off" | "n" => truth false
  | _ =>
    match numberText? s with
    | some t => number t
    | none => text s

end Plain

end Traceability.Yaml
