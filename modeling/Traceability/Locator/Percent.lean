import Traceability.Text.Digit
set_option autoImplicit false

/-!
# Percent-encoding

A byte that may not stand in a uri is written as a percent sign and two hexadecimal digits.  Characters outside
ASCII are always written so, byte by byte.
-/

namespace Traceability.Locator

/-- A hexadecimal digit of a number below sixteen. -/
def hexDigit (n : Nat) : Char := Char.ofNat (if n < 10 then 0x30 + n else 0x37 + n)

/-- The encoding of one byte. -/
def encodeByte (b : UInt8) : List Char := ['%', hexDigit (b.toNat / 16), hexDigit (b.toNat % 16)]

/-- Whether a character is a control character or outside ASCII. -/
def isControl (c : Char) : Bool := c.toNat < 0x20 || 0x7f ≤ c.toNat

/-- Encodes the controls and the characters of `reserved`. -/
def percentEncode (reserved : List Char) (s : List Char) : List Char :=
  s.flatMap fun c =>
    if isControl c || reserved.contains c then (String.utf8EncodeChar c).flatMap encodeByte else [c]

/-- The bytes of a text, in which percent signs with two digits stand for bytes. -/
def percentDecode : List Char → List UInt8
  | [] => []
  | '%' :: high :: low :: rest =>
    match Text.digitValue? 16 high, Text.digitValue? 16 low with
    | some h, some l => UInt8.ofNat (16 * h + l) :: percentDecode rest
    | _, _ => String.utf8EncodeChar '%' ++ percentDecode (high :: low :: rest)
  | c :: rest => String.utf8EncodeChar c ++ percentDecode rest

/-! ## Reserved characters -/

/-- The characters that are encoded in a fragment. -/
def fragmentReserved : List Char := [' ', '"', '<', '>', '\x60']

/-- The characters that are encoded in a path that is read from a uri. -/
def pathReserved : List Char := ['#', '?', '\x7b', '\x7d'] ++ fragmentReserved

/-- The characters that are encoded in a name of a file. -/
def nameReserved : List Char := ['/', '%', '\\'] ++ pathReserved

/-- The characters that are encoded in a query. -/
def queryReserved : List Char := [' ', '"', '#', '<', '>']

/-- The characters that are encoded in a user name or password. -/
def loginReserved : List Char := ['/', ':', ';', '=', '@', '[', '\\', ']', '^', '|'] ++ pathReserved

end Traceability.Locator
