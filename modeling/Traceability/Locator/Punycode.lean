set_option autoImplicit false

/-!
# Punycode

A text of any characters, written with letters, digits and hyphens.  First come its ASCII characters and a hyphen.
Then follows one number for each other character, in the order of their code points and from left to right: how
many steps there are from one to the next, where a step goes one place to the right, and from the end of the text
to its beginning and the next code point.  A number is written with digits of which the lowest comes first; the
digit at which it ends is one below a threshold that adapts to the numbers so far.
-/

namespace Traceability.Locator.Punycode

/-! ## Digits -/

/-- The digit of a value below thirty-six: a letter or, from twenty-six on, a decimal digit. -/
def digit (value : Nat) : Char := Char.ofNat (if value < 26 then 0x61 + value else 0x30 + (value - 26))

/-- The value of a digit. -/
def value? (c : Char) : Option Nat :=
  let n := c.toNat
  if 0x61 ≤ n && n ≤ 0x7a then some (n - 0x61)
  else if 0x30 ≤ n && n ≤ 0x39 then some (n - 0x30 + 26)
  else none

/-- The least value of a digit with which a number goes on; `weight` counts the digits by thirty-sixes. -/
def threshold (bias weight : Nat) : Nat :=
  if weight ≤ bias then 1 else if bias + 26 ≤ weight then 26 else weight - bias

theorem threshold_pos (bias weight : Nat) : 0 < threshold bias weight := by
  unfold threshold
  split
  · omega
  · split <;> omega

/-! ## Bias -/

/-- The bias at the start. -/
def firstBias : Nat := 72

/-- Divides by thirty-five until there is at most 455, and adds thirty-six for each time. -/
def scaleDown (delta bias : Nat) : Nat :=
  if 455 < delta then scaleDown (delta / 35) (bias + 36) else bias + 36 * delta / (delta + 38)
termination_by delta
decreasing_by omega

/-- The bias after a number, where so many characters have been placed, the one for this number included. -/
def nextBias (delta placed : Nat) (isFirst : Bool) : Nat :=
  let damped := if isFirst then delta / 700 else delta / 2
  scaleDown (damped + damped / placed) 0

/-! ## Writing -/

/-- The digits of a number. -/
def writeNumber (bias weight n : Nat) : List Char :=
  let t := threshold bias weight
  if n < t then [digit n]
  else digit (t + (n - t) % (36 - t)) :: writeNumber bias (weight + 36) ((n - t) / (36 - t))
termination_by n
decreasing_by
  have := threshold_pos bias weight
  have := Nat.div_le_self (n - threshold bias weight) (36 - threshold bias weight)
  omega

/-- How far the writing of a text has come. -/
structure Writer where
  written : List Char := []
  /-- The steps since the last number. -/
  delta : Nat := 0
  bias : Nat := firstBias
  /-- The number of characters that have been written. -/
  count : Nat

/-- Goes over a character while the characters with a code point are written; `basic` characters are ASCII. -/
def Writer.pass (basic codePoint : Nat) (w : Writer) (c : Char) : Writer :=
  if c.toNat < codePoint then { w with delta := w.delta + 1 }
  else if c.toNat = codePoint then
    { written := w.written ++ writeNumber w.bias 36 w.delta
      delta := 0
      bias := nextBias w.delta (w.count + 1) (w.count = basic)
      count := w.count + 1 }
  else w

/-- Writes the numbers for some code points, given in increasing order; those below `next` are written. -/
def writeNumbers (text : List Char) (basic : Nat) : List Nat → Nat → Writer → Writer
  | [], _, w => w
  | n :: rest, next, w =>
    let w := { w with delta := w.delta + (n - next) * (w.count + 1) }
    let w := text.foldl (Writer.pass basic n) w
    writeNumbers text basic rest (n + 1) { w with delta := w.delta + 1 }

/-- Writes a text. -/
def encode (text : List Char) : List Char :=
  let isBasic (c : Char) : Bool := c.toNat < 0x80
  let basic := text.filter isBasic
  let others := ((text.filter fun c => !isBasic c).map Char.toNat).eraseDups.mergeSort
  basic ++ (if basic.isEmpty then [] else ['-']) ++
    (writeNumbers text basic.length others 0x80 { count := basic.length }).written

/-! ## Reading -/

/-- Adds the number with the next digits to `n`, and gives back what follows it. -/
def readNumber? (bias : Nat) (weight factor n : Nat) : List Char → Option (Nat × List Char)
  | [] => none
  | c :: rest =>
    (value? c).bind fun value =>
      let t := threshold bias weight
      if value < t then some (n + value * factor, rest)
      else readNumber? bias (weight + 36) (factor * (36 - t)) (n + value * factor) rest

theorem readNumber?_length {bias weight factor n m : Nat} {s rest : List Char}
    (h : readNumber? bias weight factor n s = some (m, rest)) : rest.length < s.length := by
  induction s generalizing weight factor n with
  | nil => simp [readNumber?] at h
  | cons c s ih =>
    unfold readNumber? at h
    obtain ⟨value, _, h⟩ := Option.bind_eq_some_iff.mp h
    simp only at h
    split at h
    · simp only [Option.some.injEq, Prod.mk.injEq] at h
      simp [← h.2]
    · exact Nat.lt_succ_of_lt (ih h)

/-- Places one character for each number that is left into a text. -/
def readNumbers? (bias next place : Nat) (text : List Char) (s : List Char) : Option (List Char) :=
  if s.isEmpty then some text
  else
    match _h : readNumber? bias 36 1 place s with
    | none => none
    | some (n, rest) =>
      let count := text.length + 1
      let codePoint := next + n / count
      if codePoint.isValidChar then
        readNumbers? (nextBias (n - place) count (place = 0)) codePoint (n % count + 1)
          (text.insertIdx (n % count) (Char.ofNat codePoint)) rest
      else none
termination_by s.length
decreasing_by exact readNumber?_length (by assumption)

/-- Reads a text.  A hyphen in front does not separate anything. -/
def decode? (s : List Char) : Option (List Char) :=
  let numbers := (s.reverse.takeWhile (· != '-')).reverse
  let basic := (s.take (s.length - numbers.length)).dropLast
  if basic.isEmpty && numbers.length < s.length then none else readNumbers? firstBias 0x80 0 basic numbers

end Traceability.Locator.Punycode
