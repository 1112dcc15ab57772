import Traceability.Document.Reading
import Traceability.Proofs.Document.Spans
import Traceability.Proofs.Text.Spacing
set_option autoImplicit false

/-!
# Escaped text between markers

Any text can be emphasised, whatever asterisks and backslashes it holds: with a backslash in front of each of them it is
read as one span, from the first marker around it to the last one.
-/

namespace Traceability.Document

open Text

/-! ## Escaping -/

/-- The text with a backslash in front of each asterisk and each backslash. -/
def escape (text : List Char) : List Char := text.flatMap fun c => if c = '*' ∨ c = '\\' then ['\\', c] else [c]

theorem escape_cons_of_mark {c : Char} (hc : c = '*' ∨ c = '\\') (text : List Char) :
    escape (c :: text) = '\\' :: c :: escape text := by
  unfold escape
  rw [List.flatMap_cons, if_pos hc]
  rfl

theorem escape_cons_of_ne {c : Char} (hc : ¬ (c = '*' ∨ c = '\\')) (text : List Char) :
    escape (c :: text) = c :: escape text := by
  unfold escape
  rw [List.flatMap_cons, if_neg hc]
  rfl

/-- An escaped text begins with no asterisk, and with no blank unless the text does. -/
theorem startsInked_escape {text : List Char} (hinked : startsInked text = true) :
    startsInked (escape text) = true ∧ (escape text).head? ≠ some '*' := by
  obtain ⟨c, rest, rfl, hc⟩ := startsInked_iff.1 hinked
  by_cases hmark : c = '*' ∨ c = '\\'
  · rw [escape_cons_of_mark hmark]
    exact ⟨rfl, by simp⟩
  · rw [escape_cons_of_ne hmark]
    refine ⟨startsInked_iff.2 ⟨c, _, rfl, hc⟩, fun hhead => hmark (.inl ?_)⟩
    exact Option.some.inj hhead

/-- Nothing in an escaped text closes a span, and it does not protect the marker behind it.  The induction takes an
escape off the text as a whole, as the search does. -/
theorem breakOnUnescaped_escape_append (kind : Emphasis) (text rest : List Char) :
    breakOnUnescaped kind.marker (escape text ++ kind.marker ++ rest) = some (escape text, rest) := by
  induction text with
  | nil => exact breakOnUnescaped_marker kind rest
  | cons c others ih =>
    by_cases hmark : c = '*' ∨ c = '\\'
    · rw [escape_cons_of_mark hmark, List.cons_append, List.cons_append, List.cons_append, List.cons_append,
        breakOnUnescaped, ih]
      rfl
    · obtain ⟨hasterisk, hbackslash⟩ := not_or.1 hmark
      rw [escape_cons_of_ne hmark, List.cons_append, List.cons_append, breakOnUnescaped_cons_of_ne hbackslash,
        isPrefixOf_marker_of_ne kind hasterisk, ih]
      rfl

/-! ## Escaped text on a line -/

/-- An escaped text between two markers is read as it stands, if it does not begin with a blank.  On a line that has no
other marks it is the only span, with the part of the line between the unmarked texts for its source, and there is no
fault. -/
theorem spansOfLine_escaped {text : List Char} (hinked : startsInked text = true) {front back : List Char}
    (hfront : IsUnmarked front) (hback : IsUnmarked back) (kind : Emphasis) {l : NumberedLine}
    (hline : l.text = front ++ (kind.marker ++ escape text ++ kind.marker) ++ back) :
    let s : Span := ⟨kind, front.length, escape text⟩
    spansOfLine ⟨l, 0⟩ = ⟨[⟨l, s⟩], []⟩ ∧
      l.text.take s.start = front ∧ l.text.take s.innerStart = front ++ kind.marker ∧
      l.text.take s.innerStop = front ++ kind.marker ++ escape text ∧
      l.text.take s.stop = front ++ (kind.marker ++ escape text ++ kind.marker) := by
  intro s
  obtain ⟨hescaped, hfirst⟩ := startsInked_escape hinked
  have hbreak := breakOnUnescaped_escape_append kind text back
  have hspans : spansOf l.text 0 = ⟨[s], none⟩ := by
    have hread : spansFrom front.length (s.source ++ back) =
        ⟨s :: (spansFrom s.stop back).spans, (spansFrom s.stop back).unterminated⟩ :=
      spansFrom_source_append_of_breakOnUnescaped hescaped hfirst hbreak front.length
    have hsource : l.text = front ++ (s.source ++ back) := by
      rw [hline, List.append_assoc]
      rfl
    unfold spansOf
    rw [List.drop_zero, hsource, spansFrom_append hfront, Nat.zero_add, hread, spansFrom_of_isUnmarked hback]
  obtain ⟨hstart, hinnerStart, hinnerStop, hstop⟩ := s.take_eq hline rfl
  refine ⟨?_, hstart, hinnerStart, hinnerStop, hstop⟩
  unfold spansOfLine
  simp only [hspans]
  rfl

/-- A bold text that ends with an asterisk, behind characters of several bytes. -/
theorem spansOfLine_escaped_asterisk_at_end :
    let l : NumberedLine := ⟨7, "é 𝄞 **\\\\𝄞 \\*** x".toList⟩
    startsInked "\\𝄞 *".toList = true ∧ IsUnmarked "é 𝄞 ".toList ∧ IsUnmarked " x".toList ∧
      spansOfLine ⟨l, 0⟩ = ⟨[⟨l, ⟨.bold, 4, "\\\\𝄞 \\*".toList⟩⟩], []⟩ := by
  intro l
  have hinked : startsInked "\\𝄞 *".toList = true := by decide
  have hfront : IsUnmarked "é 𝄞 ".toList := by decide
  have hback : IsUnmarked " x".toList := by decide
  exact ⟨hinked, hfront, hback, (spansOfLine_escaped hinked hfront hback .bold (l := l) (by decide)).1⟩

end Traceability.Document
