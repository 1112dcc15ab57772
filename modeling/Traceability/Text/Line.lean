import Traceability.Text.Alphanumeric
set_option autoImplicit false

/-!
# Text: lines, blanks and words

A document is read line by line.  A line is a list of characters without its ending; both line feed and
carriage return with line feed end a line.  This module also fixes what counts as a blank, and how a text
is cut into fields and words.
-/

namespace Traceability.Text

/-- The characters of one line, without its ending. -/
abbrev Line := List Char

/-! ## Blanks -/

/-- The characters with the White_Space property. -/
def isBlank (c : Char) : Bool :=
  let n := c.toNat
  (0x9 ≤ n && n ≤ 0xd) || n == 0x20 || n == 0x85 || n == 0xa0 || n == 0x1680 ||
    (0x2000 ≤ n && n ≤ 0x200a) || n == 0x2028 || n == 0x2029 || n == 0x202f || n == 0x205f || n == 0x3000

/-- Drops the blanks in front. -/
def trimStart (s : List Char) : List Char := s.dropWhile isBlank

/-- Drops every character at the end that satisfies `p`. -/
def dropEndWhile (p : Char → Bool) (s : List Char) : List Char := (s.reverse.dropWhile p).reverse

/-- Drops the blanks at the end. -/
def trimEnd (s : List Char) : List Char := dropEndWhile isBlank s

/-- Drops the blanks on both sides. -/
def trim (s : List Char) : List Char := trimEnd (trimStart s)

/-- Whether the text goes on with a character that is no blank. -/
def startsInked : List Char → Bool
  | [] => false
  | c :: _ => !isBlank c

/-! ## Fields and words -/

/-- The stretches between the elements that satisfy `p`; there is always at least one. -/
def fields {α : Type} (p : α → Bool) : List α → List (List α)
  | [] => [[]]
  | c :: rest =>
    if p c then [] :: fields p rest
    else
      match fields p rest with
      | [] => [[c]]
      | first :: others => (c :: first) :: others

theorem fields_ne_nil {α : Type} (p : α → Bool) (s : List α) : fields p s ≠ [] := by
  cases s with
  | nil => simp [fields]
  | cons c rest =>
    unfold fields
    split
    · simp
    · split <;> simp

/-- The stretches of characters that are no blanks. -/
def words (s : List Char) : List (List Char) := (fields isBlank s).filter fun w => !w.isEmpty

/-- The words of a text with one space between two of them. -/
def collapse (s : List Char) : List Char := [' '].intercalate (words s)

/-! ## Lines -/

/-- A line without one carriage return at its end. -/
def dropCarriageReturn (line : Line) : Line :=
  if line.getLast? = some '\r' then line.dropLast else line

/-- The lines of a text.  The last one is empty if the text ends in a line feed. -/
def lines (text : String) : List Line := (fields (· == '\n') text.toList).map dropCarriageReturn

theorem lines_ne_nil (text : String) : lines text ≠ [] := by
  simp [lines, fields_ne_nil]

/-! ## Search -/

/-- The text up to the first occurrence of `mark`, and the text after that occurrence. -/
def breakOn (mark : List Char) : List Char → Option (List Char × List Char)
  | [] => if mark.isEmpty then some ([], []) else none
  | c :: rest =>
    if mark.isPrefixOf (c :: rest) then some ([], (c :: rest).drop mark.length)
    else (breakOn mark rest).map fun (before, after) => (c :: before, after)

theorem breakOn_eq_append {mark s before after : List Char} (h : breakOn mark s = some (before, after)) :
    s = before ++ mark ++ after := by
  induction s generalizing before with
  | nil =>
    simp only [breakOn] at h
    split at h
    · simp_all
    · simp at h
  | cons c rest ih =>
    simp only [breakOn] at h
    split at h
    · next hp =>
      obtain ⟨t, ht⟩ := List.isPrefixOf_iff_prefix.1 hp
      simp only [Option.some.injEq, Prod.mk.injEq] at h
      obtain ⟨rfl, rfl⟩ := h
      simp [← ht]
    · obtain ⟨⟨b, a⟩, hb, hab⟩ := Option.map_eq_some_iff.1 h
      simp only [Prod.mk.injEq] at hab
      obtain ⟨rfl, rfl⟩ := hab
      simp [ih hb]

theorem length_after_le {mark s before after : List Char} (h : breakOn mark s = some (before, after)) :
    after.length ≤ s.length := by
  rw [breakOn_eq_append h]
  simp
  omega

end Traceability.Text
