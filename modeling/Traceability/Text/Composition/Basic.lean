import Traceability.Text.Composition.Table
set_option autoImplicit false

/-!
# Text: composed form

Texts that differ only in how their characters are put together have the same composed form.  To find it, all
characters are taken apart, the marks after a character are put in order, and what can be composed is composed.
Syllables of Hangul have parts by a rule and not by a table.
-/

namespace Traceability.Text

/-! ## Hangul -/

/-- The number of the first syllable, of the first consonants and vowels, and of what is before the first final
consonant. -/
def firstSyllable : Nat := 0xac00
@[inherit_doc firstSyllable] def firstLead : Nat := 0x1100
@[inherit_doc firstSyllable] def firstVowel : Nat := 0x1161
@[inherit_doc firstSyllable] def noTail : Nat := 0x11a7

/-- The parts of a syllable. -/
def syllableParts? (n : Nat) : Option (List Nat) :=
  if firstSyllable ≤ n && n < firstSyllable + 19 * 21 * 28 then
    let i := n - firstSyllable
    let opened := [firstLead + i / 588, firstVowel + i % 588 / 28]
    some (if i % 28 = 0 then opened else opened ++ [noTail + i % 28])
  else none

/-- The syllable of two parts. -/
def syllable? (a b : Nat) : Option Nat :=
  if firstLead ≤ a && a < firstLead + 19 && firstVowel ≤ b && b < firstVowel + 21 then
    some (firstSyllable + ((a - firstLead) * 21 + (b - firstVowel)) * 28)
  else if firstSyllable ≤ a && a < firstSyllable + 19 * 21 * 28 && (a - firstSyllable) % 28 = 0 &&
      noTail < b && b < noTail + 28 then
    some (a + (b - noTail))
  else none

/-! ## Parts -/

/-- The parts of a code point, which may have parts again. -/
def parts? (n : Nat) : Option (List Nat) := syllableParts? n <|> composites.values? n <|> expansions.values? n

/-- Takes a code point apart, in a number of steps. -/
def takeApart : Nat → Nat → List Nat
  | 0, n => [n]
  | steps + 1, n =>
    match parts? n with
    | none => [n]
    | some parts => parts.flatMap (takeApart steps)

/-- The code points without parts of which a code point consists.  Four steps are enough for all of them. -/
def decomposition (n : Nat) : List Nat := takeApart 4 n

/-! ## Order of marks -/

/-- The class of a mark; zero for a character that is none. -/
def combiningClass (n : Nat) : Nat := ((combiningClasses.values? n).bind List.head?).getD 0

/-- Puts a code point behind others, the last of which comes first.  A mark goes before the marks of higher
classes. -/
def place (n : Nat) : List Nat → List Nat
  | [] => [n]
  | m :: before =>
    if 0 < combiningClass n && combiningClass n < combiningClass m then m :: place n before else n :: m :: before

/-- Puts the marks in order. -/
def ordered (s : List Nat) : List Nat := (s.foldl (fun done n => place n done) []).reverse

/-! ## Composing -/

/-- The code point that two others compose. -/
def composite? (a b : Nat) : Option Nat :=
  syllable? a b <|> (composites.find? fun r => r.values = [a, b]).map CodeRun.first

/-- Composes a character with those that follow it.  The marks that have been passed over, the last one first, are
of no higher class than `passedClass`; a mark behind one of its own class cannot be composed. -/
def composeFrom (character : Nat) (passed : List Nat) (passedClass : Nat) : List Nat → List Nat
  | [] => character :: passed.reverse
  | n :: rest =>
    let composed? := if passed.isEmpty || passedClass < combiningClass n then composite? character n else none
    match composed? with
    | some m => composeFrom m passed passedClass rest
    | none =>
      if combiningClass n = 0 then character :: passed.reverse ++ composeFrom n [] 0 rest
      else composeFrom character (n :: passed) (combiningClass n) rest

/-- Composes what can be composed.  Marks in front of all characters stay as they are. -/
def composeAll : List Nat → List Nat
  | [] => []
  | n :: rest => if combiningClass n = 0 then composeFrom n [] 0 rest else n :: composeAll rest

/-- The composed form of a text of code points. -/
def composedForm (s : List Nat) : List Nat := composeAll (ordered (s.flatMap decomposition))

end Traceability.Text
