import Traceability.Emphasis
import Traceability.Identifier
import Traceability.Text.Range
set_option autoImplicit false

/-!
# The word under a cursor

A cursor stands at a byte offset of a line.  Inside emphasis it denotes the whole emphasised phrase, so that
free text works as one name; elsewhere it denotes the run of identifier characters around it, without the
dots at both ends.
-/

namespace Traceability

open Text

/-- A part of a line and the byte offset at which it starts. -/
structure Word where
  start : Nat
  text : List Char
  deriving DecidableEq, Repr, Inhabited

/-- The byte offset right after the word. -/
def Word.stop (w : Word) : Nat := w.start + utf8Length w.text

/-- What a byte offset of a line denotes. -/
inductive Lookup where
  /-- A word or an emphasised phrase. -/
  | word (w : Word)
  /-- The offset touches no word, or lies past the end of the line. -/
  | nothing
  /-- The offset splits a character. -/
  | insideCharacter
  deriving DecidableEq, Repr, Inhabited

/-! ## Phrases -/

/-- The part of `text` without blanks at both ends, where `text` starts at the byte offset `start`. -/
def trimmedWord? (start : Nat) (text : List Char) : Option Word :=
  match trim text with
  | [] => none
  | inked => some ⟨start + utf8Length (text.takeWhile isBlank), inked⟩

/-- The first emphasised phrase at or after the byte offset `offset` that the cursor touches, markers included.
An opener without a closing marker ends the search. -/
def phraseFrom (cursor offset : Nat) : List Char → Option Word
  | [] => none
  | c :: rest =>
    if c ≠ '*' then phraseFrom cursor (offset + c.utf8Size) rest
    else
      let kind := (Emphasis.opening rest).1
      let inner := (Emphasis.opening rest).2
      have : inner.length ≤ rest.length := Emphasis.length_opening_le rest
      let innerStart := offset + utf8Length kind.marker
      if startsInked inner then
        match h : breakOn kind.marker inner with
        | none => none
        | some (text, after) =>
          have := length_after_le h
          let stop := innerStart + utf8Length text + utf8Length kind.marker
          if offset ≤ cursor ∧ cursor ≤ stop then trimmedWord? innerStart text
          else phraseFrom cursor stop after
      else phraseFrom cursor innerStart inner
termination_by line => line.length
decreasing_by
  · simp
  all_goals
    have := Emphasis.length_opening_le rest
    simp only [List.length_cons]
    omega

/-! ## Runs of identifier characters -/

/-- The run of identifier characters that ends `before` and goes on in `after`, without dots at both ends. -/
def runAround? (before after : Line) : Option Word :=
  let head := (before.reverse.takeWhile isIdentifierChar).reverse
  let run := head ++ after.takeWhile isIdentifierChar
  match dropEndWhile (· == '.') (run.dropWhile (· == '.')) with
  | [] => none
  | word => some ⟨utf8Length before - utf8Length head + utf8Length (run.takeWhile (· == '.')), word⟩

/-- The word or phrase at a byte offset of a line. -/
def wordAt (line : Line) (byte : Nat) : Lookup :=
  if utf8Length line < byte then .nothing
  else
    match phraseFrom byte 0 line with
    | some w => .word w
    | none =>
      match splitAtByte? line byte with
      | none => .insideCharacter
      | some (before, after) =>
        match runAround? before after with
        | some w => .word w
        | none => .nothing

/-- The word or phrase at a position of a text; none where the text has no such line or no word there. -/
def wordAtPosition (text : String) (p : Position) : Option (List Char) :=
  match (lines text)[p.line]? with
  | none => none
  | some line =>
    match wordAt line (byteOffset line p.character) with
    | .word w => some w.text
    | _ => none

end Traceability
