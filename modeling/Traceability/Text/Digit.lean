set_option autoImplicit false

/-!
# Text: digits

Numbers are written with the digits of a base, which is at most sixteen.
-/

namespace Traceability.Text

/-- The value of a character that is a digit of a base. -/
def digitValue? (base : Nat) (c : Char) : Option Nat :=
  let n := c.toNat
  let value? :=
    if 0x30 ≤ n && n ≤ 0x39 then some (n - 0x30)
    else if 0x41 ≤ n && n ≤ 0x46 then some (n - 0x37)
    else if 0x61 ≤ n && n ≤ 0x66 then some (n - 0x57)
    else none
  value?.filter (· < base)

/-- The number that the digits of a base stand for.  No digits are no number. -/
def number? (base : Nat) (digits : List Char) : Option Nat :=
  if digits.isEmpty then none
  else digits.foldlM (fun n c => (digitValue? base c).map (base * n + ·)) 0

end Traceability.Text
