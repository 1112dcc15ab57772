import Traceability.Decimal.Basic
set_option autoImplicit false

/-!
# Decimals: the nearest binary number and its shortest form

Numbers are kept in binary with 53 digits.  `nearest?` rounds a decimal to the nearest of them, a tie to the even
one; `shortest` chooses the decimal that is written for a binary number: of those that round to it, one with the
fewest digits, and of these the closest.  All of it is exact arithmetic on natural numbers.
-/

namespace Traceability

/-- A binary number that is not negative: `mantissa` times a power of two. -/
structure Binary where
  mantissa : Nat
  exponent : Int
  deriving DecidableEq, Repr, Inhabited

namespace Binary

/-- The number of binary digits of a mantissa. -/
def precision : Nat := 53

/-- The least number that has too many binary digits for a mantissa. -/
def limit : Nat := Nat.pow 2 precision

/-- The exponent of the smallest binary numbers. -/
def leastExponent : Int := -1074

/-- The exponent of the largest binary numbers. -/
def greatestExponent : Int := 971

/-- A fraction times a power of two, as a fraction. -/
def scale (numerator denominator : Nat) (power : Int) : Nat × Nat :=
  if 0 ≤ power then (numerator * Nat.pow 2 power.toNat, denominator)
  else (numerator, denominator * Nat.pow 2 power.natAbs)

/-- A fraction rounded to a whole number, a tie to the even one. -/
def roundToEven (numerator denominator : Nat) : Nat :=
  let whole := numerator / denominator
  let twice := 2 * (numerator % denominator)
  if twice < denominator || (twice = denominator && whole % 2 = 0) then whole else whole + 1

/-- The nearest binary number to a fraction; none if it is too large. -/
def ofFraction? (numerator denominator : Nat) : Option Binary :=
  if numerator = 0 then some ⟨0, leastExponent⟩
  else
    let roundedAt (exponent : Int) : Nat :=
      let (n, d) := scale numerator denominator (-exponent)
      roundToEven n d
    let estimate : Int := Nat.log2 numerator - Nat.log2 denominator
    let low := max (estimate - precision) leastExponent
    let exponent := if roundedAt low < limit then low else low + 1
    let mantissa := roundedAt exponent
    let (mantissa, exponent) :=
      if mantissa = limit then (limit / 2, exponent + 1) else (mantissa, exponent)
    if greatestExponent < exponent then none else some ⟨mantissa, exponent⟩

/-- The nearest binary number to a decimal, without its sign; none if it is too large.  Powers of ten beyond all
binary numbers are not worked out. -/
def nearest? (d : Decimal) : Option Binary :=
  let magnitude : Int := (Decimal.digitText d.digits).length + d.exponent
  if d.digits = 0 || magnitude < -400 then some ⟨0, leastExponent⟩
  else if 400 < magnitude then none
  else if 0 ≤ d.exponent then ofFraction? (d.digits * Nat.pow 10 d.exponent.toNat) 1
  else ofFraction? d.digits (Nat.pow 10 d.exponent.natAbs)

/-- Whether the gap to the next smaller number is half as wide as the one to the next larger. -/
def isNarrowBelow (b : Binary) : Bool := b.mantissa = limit / 2 && leastExponent < b.exponent

/-- How `digits` times a power of ten compares with a quarter of `quarters` times the power of two of a binary
number. -/
def compareQuarters (b : Binary) (digits : Nat) (exponent : Int) (quarters : Nat) : Ordering :=
  let (n, d) := scale quarters 1 (b.exponent - 2)
  if 0 ≤ exponent then compare (digits * Nat.pow 10 exponent.toNat * d) n
  else compare (digits * d) (n * Nat.pow 10 exponent.natAbs)

/-- Whether `digits` times a power of ten rounds to a binary number.  The ends of the interval do so for an even
mantissa. -/
def isRead (b : Binary) (digits : Nat) (exponent : Int) : Bool :=
  let even := b.mantissa % 2 = 0
  let low := 4 * b.mantissa - (if b.isNarrowBelow then 1 else 2)
  let below := b.compareQuarters digits exponent low
  let above := b.compareQuarters digits exponent (4 * b.mantissa + 2)
  (below = .gt || (even && below = .eq)) && (above = .lt || (even && above = .eq))

/-- The multiple of a power of ten that rounds to a binary number, if there is one: of two the closer, of two
equally close the larger. -/
def onGrid? (b : Binary) (exponent : Int) : Option Decimal :=
  let (n, d) := scale b.mantissa 1 b.exponent
  let below := if 0 ≤ exponent then n / (d * Nat.pow 10 exponent.toNat) else n * Nat.pow 10 exponent.natAbs / d
  let above := below + 1
  let result (digits : Nat) : Option Decimal := some ⟨false, digits, exponent⟩
  match b.isRead below exponent, b.isRead above exponent with
  | true, true =>
    -- the middle between the two is half an odd multiple of the power of ten
    if b.compareQuarters (below + above) exponent (8 * b.mantissa) = .gt then result below else result above
  | true, false => result below
  | false, true => result above
  | false, false => none

/-- The number of digits before the point, or minus the number of zeros after it. -/
def decimalPlace (b : Binary) : Int :=
  let (n, d) := scale b.mantissa 1 b.exponent
  if d ≤ n then (Decimal.digitText (n / d)).length
  else 1 - (Decimal.digitText ((d - 1) / n)).length

/-- The shortest decimal that rounds to a binary number, without idle zeros at its end. -/
def shortest (b : Binary) : Decimal :=
  if b.mantissa = 0 then ⟨false, 0, 0⟩
  else
    let grids := (List.range 18).map fun (count : Nat) => b.decimalPlace - (count : Int)
    match grids.findSome? b.onGrid? with
    | some d => d
    | none =>
      let (n, d) := scale b.mantissa 1 b.exponent
      ⟨false, n * Nat.pow 10 b.exponent.natAbs / d, -(b.exponent.natAbs : Int)⟩

end Binary

namespace Decimal

/-- The text of the binary number that is nearest to a decimal: its shortest form, without an exponent. -/
def shortestText (d : Decimal) : List Char :=
  match Binary.nearest? d with
  | none => (if d.negative then ['-'] else []) ++ ['i', 'n', 'f']
  | some b => { b.shortest with negative := d.negative }.positional

end Decimal

end Traceability
