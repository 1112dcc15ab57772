import Traceability.Locator.Address
import Traceability.Locator.Domain.Basic
import Traceability.Locator.Percent
set_option autoImplicit false

/-!
# Hosts

A host is the name or the address of a machine.  In special schemes a name is a domain, and one that ends in a
number is an address; in all others it is any text.
-/

namespace Traceability.Locator

/-- The name or address of a machine. -/
inductive Host where
  /-- A name in its standard form; empty if there is no host. -/
  | name (text : List Char)
  /-- An address of four bytes, as one number. -/
  | bytes (address : Nat)
  /-- An address of eight groups of sixteen bits. -/
  | groups (address : List Nat)
  deriving DecidableEq, Repr, Inhabited

namespace Host

/-- No host. -/
def missing : Host := name []

/-- The name of the machine itself. -/
def here : List Char := ['l', 'o', 'c', 'a', 'l', 'h', 'o', 's', 't']

/-- The host as text. -/
def text : Host → List Char
  | name text => text
  | bytes address => Address.bytesText address
  | groups address => ['['] ++ Address.eightText address ++ [']']

/-- Reads an address in brackets. -/
def readBracketed? (s : List Char) : Option Host :=
  if s.getLast? = some ']' then (Address.readEight? s.dropLast).map groups else none

/-- Reads the host of a special scheme. -/
def ofSpecial? (s : List Char) : Option Host :=
  match s with
  | '[' :: rest => readBracketed? rest
  | _ => do
    let written ← String.fromUTF8? ⟨(percentDecode s).toArray⟩
    let domain ← Domain.toASCII? written.toList
    if domain.isEmpty then none
    else if Address.endsInNumber domain then (Address.readBytes? domain).map bytes
    else some (name domain)

/-- The characters that no host of another scheme may hold. -/
def excluded : List Char :=
  [Char.ofNat 0, '\t', '\n', '\r', ' ', '#', '/', ':', '<', '>', '?', '@', '[', '\\', ']', '^', '|']

/-- Reads the host of any other scheme. -/
def ofText? (s : List Char) : Option Host :=
  match s with
  | '[' :: rest => readBracketed? rest
  | _ => if s.any excluded.contains then none else some (name (percentEncode [] s))

end Host

end Traceability.Locator
