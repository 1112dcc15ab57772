import Traceability.Locator.Domain.Mapping
import Traceability.Locator.Domain.Script
import Traceability.Locator.Punycode
import Traceability.Text.Composition.Basic
set_option autoImplicit false

/-!
# Domains

A domain consists of labels with dots between them.  It may be written with characters of all scripts, and is kept
in ASCII: labels with other characters are written in Punycode behind a mark.
-/

namespace Traceability.Locator.Domain

open Text

/-! ## Mapping -/

/-- What is kept for a code point. -/
def mapCode? (n : Nat) : Option (List Nat) :=
  if forbidden.contains n then none
  else
    some ((decomposition n).flatMap fun part =>
      if ignored.contains part then [] else (mapped.image? part).getD [part])

/-- What is kept for a text; none if it holds forbidden characters. -/
def normalize? (s : List Char) : Option (List Char) :=
  (s.mapM fun c => mapCode? c.toNat).map fun codes => (composedForm codes.flatten).map Char.ofNat

/-- Whether a character is ASCII. -/
def isASCII (c : Char) : Bool := c.toNat < 0x80

/-- The ASCII characters that no domain may hold. -/
def isExcluded (c : Char) : Bool :=
  c.toNat ≤ 0x20 || c.toNat = 0x7f || "%#/:<>?@[\\]^|".toList.contains c

/-! ## Labels -/

/-- A label with its characters and in ASCII. -/
structure Label where
  text : List Char
  ascii : List Char
  deriving DecidableEq, Repr, Inhabited

/-- What stands in front of Punycode. -/
def punycodeMark : List Char := ['x', 'n', '-', '-']

/-- Whether a character is a mark. -/
def isMark (c : Char) : Bool := nonspacingMarks.contains c.toNat || spacingMarks.contains c.toNat

/-- The characters that join and that keep apart their neighbours. -/
def joiner : Char := '\u200d'
@[inherit_doc joiner] def nonJoiner : Char := '\u200c'

/-- The combining class of the signs that take the vowel from a letter. -/
def viramaClass : Nat := 9

/-- Whether the first character that is not a nonspacing mark is listed. -/
def meets (t : CodeTable) (s : List Char) : Bool :=
  ((s.dropWhile fun c => nonspacingMarks.contains c.toNat).head?).any fun c => t.contains c.toNat

/-- Whether joiners stand only where they have an effect: after a sign that takes the vowel, or, to keep letters
apart, between letters that would be joined.  `before` is what precedes, the last character first. -/
def joinersFit (before : List Char) : List Char → Bool
  | [] => true
  | c :: rest =>
    let fits :=
      (c != joiner && c != nonJoiner) ||
        (before.head?.any fun b => combiningClass b.toNat = viramaClass) ||
        (c == nonJoiner && meets joinsNext before && meets joinsPrevious rest)
    fits && joinersFit (c :: before) rest

/-- Whether a label with characters outside ASCII may stand in a domain. -/
def isSound (label : List Char) : Bool := !label.head?.any isMark && joinersFit [] label

/-- Reads a label with normal characters. -/
def Label.ofText? (label : List Char) : Option Label :=
  if punycodeMark.isPrefixOf label then do
    let written := label.drop punycodeMark.length
    if written.getLast?.all (· == '-') || !written.all isASCII then none
    let text ← Punycode.decode? written
    if normalize? text = some text && !text.any (fun c => c == '.' || isExcluded c) && isSound text then
      some { text, ascii := label }
    else none
  else if label.all isASCII then some { text := label, ascii := label }
  else if isSound label then some { text := label, ascii := punycodeMark ++ Punycode.encode label }
  else none

/-! ## Direction -/

/-- Whether a character is written from right to left. -/
def isRightToLeft (c : Char) : Bool := rightToLeft.contains c.toNat

/-- Whether a character is one of Arabic numbers. -/
def isArabicNumber (c : Char) : Bool := arabicNumbers.contains c.toNat

/-- Whether a character is a digit of European numbers. -/
def isEuropeanNumber (c : Char) : Bool := europeanNumbers.contains c.toNat

/-- Whether a character has no direction, as signs and marks. -/
def isUndirected (c : Char) : Bool := undirected.contains c.toNat || nonspacingMarks.contains c.toNat

/-- Whether a character is written from left to right. -/
def isLeftToRight (c : Char) : Bool :=
  !isRightToLeft c && !isArabicNumber c && !isEuropeanNumber c && !isUndirected c

/-- Whether a label has one direction: it begins with a letter and ends, marks apart, with a letter or a number of
that direction, and holds no letter of the other one.  Numbers of both kinds do not stand in one label. -/
def hasOneDirection (label : List Char) : Bool :=
  match label with
  | [] => true
  | first :: _ =>
    let ending := ((label.reverse.dropWhile fun c => nonspacingMarks.contains c.toNat).head?).getD first
    if isRightToLeft first then
      !label.any isLeftToRight && !(label.any isArabicNumber && label.any isEuropeanNumber) &&
        (isRightToLeft ending || isArabicNumber ending || isEuropeanNumber ending)
    else
      isLeftToRight first && !label.any (fun c => isRightToLeft c || isArabicNumber c) &&
        (isLeftToRight ending || isEuropeanNumber ending)

/-! ## Reading -/

/-- Reads a domain and writes it in ASCII.  If anything in it is written from right to left, each label must have
one direction. -/
def toASCII? (s : List Char) : Option (List Char) := do
  let text ← normalize? s
  if text.any isExcluded then none
  let labels ← (fields (· == '.') text).mapM Label.ofText?
  let isMixed := labels.any fun l => l.text.any fun c => isRightToLeft c || isArabicNumber c
  if isMixed && !labels.all fun l => hasOneDirection l.text then none
  return ['.'].intercalate (labels.map Label.ascii)

end Traceability.Locator.Domain
