import Traceability.Text.Line
set_option autoImplicit false

/-!
# Text: places on a line

A place on a line is counted in three units: characters (inside this library), bytes of its UTF-8 encoding
(cursors) and UTF-16 code units (the columns that editors show).  This module converts between them.  A byte
offset inside the encoding of one character denotes no place.  None of the counts has a bound.
-/

namespace Traceability.Text

/-! ## Sizes -/

/-- The UTF-16 code units of one character. -/
def units (c : Char) : Nat := if c.toNat < 0x10000 then 1 else 2

/-- The UTF-16 code units of a text. -/
def utf16Length : List Char → Nat
  | [] => 0
  | c :: s => units c + utf16Length s

/-- The bytes of a text in UTF-8. -/
def utf8Length : List Char → Nat
  | [] => 0
  | c :: s => c.utf8Size + utf8Length s

@[simp] theorem utf16Length_nil : utf16Length [] = 0 := rfl

@[simp] theorem utf16Length_cons (c : Char) (s : List Char) :
    utf16Length (c :: s) = units c + utf16Length s := rfl

@[simp] theorem utf16Length_append (s t : List Char) :
    utf16Length (s ++ t) = utf16Length s + utf16Length t := by
  induction s with
  | nil => simp
  | cons c s ih =>
    rw [List.cons_append, utf16Length_cons, utf16Length_cons, ih]
    omega

@[simp] theorem utf8Length_nil : utf8Length [] = 0 := rfl

@[simp] theorem utf8Length_cons (c : Char) (s : List Char) :
    utf8Length (c :: s) = c.utf8Size + utf8Length s := rfl

@[simp] theorem utf8Length_append (s t : List Char) :
    utf8Length (s ++ t) = utf8Length s + utf8Length t := by
  induction s with
  | nil => simp
  | cons c s ih =>
    rw [List.cons_append, utf8Length_cons, utf8Length_cons, ih]
    omega

theorem units_pos (c : Char) : 0 < units c := by
  unfold units
  split <;> omega

/-! ## Columns -/

/-- The column in front of the character number `i`. -/
def column (line : Line) (i : Nat) : Nat := utf16Length (line.take i)

/-- The line in front of and after a byte offset; none if it falls inside a character or past the end. -/
def splitAtByte? : Line → Nat → Option (Line × Line)
  | line, 0 => some ([], line)
  | [], _ + 1 => none
  | c :: rest, byte + 1 =>
    if c.utf8Size ≤ byte + 1 then
      (splitAtByte? rest (byte + 1 - c.utf8Size)).map fun (before, after) => (c :: before, after)
    else none

theorem splitAtByte?_eq_append {line before after : Line} {byte : Nat}
    (h : splitAtByte? line byte = some (before, after)) :
    line = before ++ after ∧ utf8Length before = byte := by
  fun_induction splitAtByte? line byte generalizing before with
  | case1 line => simp_all
  | case2 => simp at h
  | case3 c rest byte hc ih =>
    obtain ⟨⟨b, a⟩, hb, hab⟩ := Option.map_eq_some_iff.1 h
    simp only [Prod.mk.injEq] at hab
    obtain ⟨rfl, rfl⟩ := hab
    obtain ⟨h1, h2⟩ := ih hb
    refine ⟨by simp [h1], ?_⟩
    simp [h2]
    omega
  | case4 => simp at h

/-- The column at a byte offset, which is cut at the end of the line. -/
def columnAtByte? (line : Line) (byte : Nat) : Option Nat :=
  (splitAtByte? line (min byte (utf8Length line))).map fun (before, _) => utf16Length before

/-- The first byte offset at which the column has been reached, or the end of the line. -/
def byteOffset : Line → Nat → Nat
  | _, 0 => 0
  | [], _ + 1 => 0
  | c :: rest, col + 1 => c.utf8Size + byteOffset rest (col + 1 - units c)

end Traceability.Text
