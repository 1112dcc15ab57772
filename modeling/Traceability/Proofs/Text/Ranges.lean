import Mathlib.Order.Basic
import Traceability.Text.Range
set_option autoImplicit false

/-!
# Ranges in a text

Positions are ordered line first.  A range lies in a text if it does not end before it starts and both of its ends name
lines that exist and columns that these lines have; and it may lie inside of another range.  Places on a line turn into
columns in their order, so places in order give ranges in order.
-/

namespace Traceability.Text

/-! ## The order of positions -/

theorem Position.le_iff (p q : Position) :
    p ≤ q ↔ p.line < q.line ∨ (p.line = q.line ∧ p.character ≤ q.character) := Iff.rfl

instance : Preorder Position where
  le_refl := by
    intro p
    exact .inr ⟨rfl, Nat.le_refl _⟩
  le_trans := by
    intro p q r hpq hqr
    rw [Position.le_iff] at hpq hqr ⊢
    omega

theorem Position.lt_iff (p q : Position) :
    p < q ↔ p.line < q.line ∨ (p.line = q.line ∧ p.character < q.character) := by
  rw [lt_iff_le_not_ge, Position.le_iff, Position.le_iff]
  omega

theorem Position.lt_of_line_lt {p q : Position} (h : p.line < q.line) : p < q := (Position.lt_iff p q).2 (.inl h)

/-! ## Ranges in a text and in other ranges -/

/-- The position names a line that exists and a column that the line has. -/
def Position.IsIn (ls : List Line) (p : Position) : Prop :=
  ∃ line, ls[p.line]? = some line ∧ p.character ≤ utf16Length line

/-- The range does not end before it starts, and both of its ends are in the text. -/
structure Range.IsIn (ls : List Line) (r : Range) : Prop where
  start_le_stop : r.start ≤ r.stop
  start : r.start.IsIn ls
  stop : r.stop.IsIn ls

/-- The range reaches beyond another one on neither side. -/
structure Range.IsInside (inner outer : Range) : Prop where
  start_le_start : outer.start ≤ inner.start
  stop_le_stop : inner.stop ≤ outer.stop

/-- Every text has a first line. -/
theorem isIn_origin (text : String) : (Range.point Position.origin).IsIn (lines text) := by
  have horigin : Position.origin.IsIn (lines text) := by
    obtain ⟨line, rest, hlines⟩ := List.exists_cons_of_ne_nil (lines_ne_nil text)
    refine ⟨line, ?_, Nat.zero_le _⟩
    rw [hlines]
    rfl
  exact ⟨le_rfl, horigin, horigin⟩

/-! ## Columns -/

theorem column_le_utf16Length (line : Line) (place : Nat) : column line place ≤ utf16Length line := by
  have hsplit : utf16Length line = column line place + utf16Length (line.drop place) := by
    unfold column
    rw [← utf16Length_append, List.take_append_drop]
  omega

theorem column_le_column (line : Line) {i j : Nat} (h : i ≤ j) : column line i ≤ column line j := by
  have htake : column line i = column (line.take j) i := by
    unfold column
    rw [List.take_take, Nat.min_eq_left h]
  rw [htake]
  exact column_le_utf16Length (line.take j) i

/-- The character at a place, and the column behind it. -/
theorem exists_column_succ_eq {line : Line} {i : Nat} (h : i < line.length) :
    ∃ c, line = line.take i ++ c :: line.drop (i + 1) ∧ column line (i + 1) = column line i + units c := by
  obtain ⟨c, hdrop, htake⟩ : ∃ c, line.drop i = c :: line.drop (i + 1) ∧ line.take (i + 1) = line.take i ++ [c] :=
    ⟨_, List.drop_eq_getElem_cons h, List.take_succ_eq_append_getElem h⟩
  refine ⟨c, ?_, ?_⟩
  · rw [← hdrop, List.take_append_drop]
  · unfold column
    rw [htake, utf16Length_append, utf16Length_cons, utf16Length_nil, Nat.add_zero]

/-- A character takes at least one column, so different places on a line have different columns. -/
theorem column_lt_column {line : Line} {i j : Nat} (h : i < j) (hi : i < line.length) :
    column line i < column line j := by
  obtain ⟨c, _, hnext⟩ := exists_column_succ_eq hi
  have hpos := units_pos c
  have hle := column_le_column line (i := i + 1) h
  omega

/-- What stands at a place takes as many columns as it has code units. -/
theorem column_add_utf16Length {line before token after : Line} (h : line = before ++ token ++ after) :
    column line before.length + utf16Length token = column line (before ++ token).length := by
  have hbefore : line.take before.length = before := by
    rw [h, List.append_assoc, List.take_left]
  have htoken : line.take (before ++ token).length = before ++ token := by
    rw [h, List.take_left]
  unfold column
  rw [hbefore, htoken, utf16Length_append]

end Traceability.Text
