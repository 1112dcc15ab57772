set_option autoImplicit false

/-!
# Decimals

Numbers as people write them: a sign, digits with a point in them, and a power of ten.  This module reads them
and writes them without an exponent.
-/

namespace Traceability

/-- A decimal number: `digits` times a power of ten, with a sign that zero may have too. -/
structure Decimal where
  negative : Bool
  digits : Nat
  exponent : Int
  deriving DecidableEq, Repr, Inhabited

namespace Decimal

/-- The sign in front of a number, and what follows it. -/
def readSign : List Char → Bool × List Char
  | '-' :: rest => (true, rest)
  | '+' :: rest => (false, rest)
  | s => (false, s)

/-- The number that digits denote. -/
def value (digits : List Char) : Nat := digits.foldl (fun n c => 10 * n + (c.toNat - 0x30)) 0

/-- Reads one digit or more. -/
def readDigits? (s : List Char) : Option Nat :=
  if s.isEmpty || !s.all Char.isDigit then none else some (value s)

/-- Reads a whole number with an optional sign. -/
def readInteger? (s : List Char) : Option Int :=
  let (negative, unsigned) := readSign s
  (readDigits? unsigned).map fun n => if negative then -(n : Int) else n

/-- Reads a decimal.  There is a digit before or after the point, and the exponent is a whole number. -/
def ofText? (s : List Char) : Option Decimal :=
  let (negative, unsigned) := readSign s
  let whole := unsigned.takeWhile Char.isDigit
  let (fraction, rest) :=
    match unsigned.dropWhile Char.isDigit with
    | '.' :: rest => (rest.takeWhile Char.isDigit, rest.dropWhile Char.isDigit)
    | rest => ([], rest)
  let scaled (exponent : Int) : Decimal :=
    { negative, digits := value (whole ++ fraction), exponent := exponent - fraction.length }
  if whole.isEmpty && fraction.isEmpty then none
  else
    match rest with
    | [] => some (scaled 0)
    | mark :: power => if mark == 'e' || mark == 'E' then (readInteger? power).map scaled else none

/-- The digits of a number. -/
def digitText (n : Nat) : List Char := Nat.toDigits 10 n

/-- A decimal without an exponent, as it stands: no digits are dropped. -/
def positional (d : Decimal) : List Char :=
  let sign := if d.negative then ['-'] else []
  let text := digitText d.digits
  if d.digits = 0 then sign ++ ['0']
  else if 0 ≤ d.exponent then sign ++ text ++ List.replicate d.exponent.toNat '0'
  else
    let places := d.exponent.natAbs
    let padded := List.replicate (places + 1 - text.length) '0' ++ text
    sign ++ padded.take (padded.length - places) ++ '.' :: padded.drop (padded.length - places)

end Decimal

end Traceability
