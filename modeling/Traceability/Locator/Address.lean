import Traceability.Text.Digit
import Traceability.Text.Line
set_option autoImplicit false

/-!
# Addresses

A machine has an address of four bytes or of eight groups of sixteen bits.  Four bytes are written as up to four
numbers with dots between them, of which the last one stands for all bytes that are left; groups are written in
hexadecimal digits with colons between them, and two colons stand for groups of zero.  Either has one standard form.
-/

namespace Traceability.Locator.Address

open Text

/-! ## Four bytes -/

/-- The value of a number in an address of four bytes: hexadecimal after `0x`, octal after `0`, else decimal. -/
def partValue? : List Char → Option Nat
  | ['0'] => some 0
  | ['0', 'x'] | ['0', 'X'] => some 0
  | '0' :: 'x' :: digits | '0' :: 'X' :: digits => number? 16 digits
  | '0' :: digits => number? 8 digits
  | digits => number? 10 digits

/-- The parts of a name between its dots, where a dot at the end does not count. -/
def parts (name : List Char) : List (List Char) :=
  let all := fields (· == '.') name
  if 1 < all.length && all.getLast? = some [] then all.dropLast else all

/-- Whether a name can only be an address of four bytes, since it ends in a number. -/
def endsInNumber (name : List Char) : Bool :=
  (parts name).getLast?.any fun part => (!part.isEmpty && part.all Char.isDigit) || (partValue? part).isSome

/-- Reads an address of four bytes as one number. -/
def readBytes? (name : List Char) : Option Nat := do
  let values ← (parts name).mapM partValue?
  let last ← values.getLast?
  let bytes := values.dropLast
  if 4 < values.length || bytes.any (255 < ·) || Nat.pow 256 (4 - bytes.length) ≤ last then none
  else some (bytes.foldr (fun byte tail => byte * 0x1000000 + tail / 256) 0 + last)

/-- An address of four bytes in its standard form. -/
def bytesText (address : Nat) : List Char :=
  ['.'].intercalate ([3, 2, 1, 0].map fun place => Nat.toDigits 10 (address / Nat.pow 256 place % 256))

/-! ## Eight groups -/

/-- The two groups of an address of four bytes in decimal numbers, none of which begins with an idle zero. -/
def readTail? (s : List Char) : Option (List Nat) := do
  let byte? (part : List Char) : Option Nat :=
    if 1 < part.length && part.head? = some '0' then none else (number? 10 part).filter (· < 256)
  match ← (fields (· == '.') s).mapM byte? with
  | [a, b, c, d] => some [256 * a + b, 256 * c + d]
  | _ => none

/-- The groups of a text that follow others, and after how many of all a gap begins.  A gap itself counts as one
group of zero. -/
def readGroups? (groups : List Nat) (gap : Option Nat) (s : List Char) : Option (List Nat × Option Nat) :=
  match s with
  | [] => some (groups, gap)
  | ':' :: rest =>
    if 8 ≤ groups.length || gap.isSome then none
    else readGroups? (groups ++ [0]) (some (groups.length + 1)) rest
  | c :: others =>
    let isDigit (c : Char) : Bool := (digitValue? 16 c).isSome
    let digits := ((c :: others).take 4).takeWhile isDigit
    if 8 ≤ groups.length then none
    else
      match h : (c :: others).drop digits.length with
      | [] => (number? 16 digits).map fun n => (groups ++ [n], gap)
      | '.' :: _ =>
        if digits.isEmpty || 6 < groups.length then none
        else (readTail? (c :: others)).map fun tail => (groups ++ tail, gap)
      | ':' :: next :: rest => (number? 16 digits).bind fun n => readGroups? (groups ++ [n]) gap (next :: rest)
      | _ => none
termination_by s.length
decreasing_by
  · simp
  · have := congrArg List.length h
    simp only [List.length_drop, List.length_cons] at this ⊢
    omega

/-- Reads an address of eight groups. -/
def readEight? (s : List Char) : Option (List Nat) := do
  let (groups, gap) ←
    match s with
    | ':' :: ':' :: rest => readGroups? [0] (some 1) rest
    | ':' :: _ => none
    | _ => readGroups? [] none s
  match gap with
  | some place => some (groups.take place ++ List.replicate (8 - groups.length) 0 ++ groups.drop place)
  | none => if groups.length = 8 then some groups else none

/-- Where the longest row of zeros begins, and its length; of rows of one length the first one counts. -/
def longestZeros (groups : List Nat) : Nat × Nat :=
  (List.range groups.length).foldl
    (fun best start =>
      let length := ((groups.drop start).takeWhile (· = 0)).length
      if best.2 < length then (start, length) else best)
    (0, 0)

/-- An address of eight groups in its standard form: two colons stand for the longest row of two zeros or more. -/
def eightText (groups : List Nat) : List Char :=
  let write (groups : List Nat) : List Char := [':'].intercalate (groups.map (Nat.toDigits 16))
  let (start, length) := longestZeros groups
  if length < 2 then write groups
  else write (groups.take start) ++ [':', ':'] ++ write (groups.drop (start + length))

end Traceability.Locator.Address
