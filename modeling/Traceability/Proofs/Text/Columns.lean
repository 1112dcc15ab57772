import Mathlib.Data.Nat.Basic
import Mathlib.Data.Set.Basic
import Mathlib.Order.Bounds.Defs
import Mathlib.Order.Monotone.Defs
import Traceability.Proofs.Text.Offsets
import Traceability.Proofs.Text.Ranges
set_option autoImplicit false

/-!
# Columns and byte offsets

An editor counts code units, a cursor bytes.  From bytes to columns and back again leads to the same place; from
columns to bytes and back again leads to the same column, except from the middle of a character of two code units,
behind which it leads.
-/

namespace Traceability.Text

/-! ## Boundaries -/

/-- The byte offset splits no character of the line. -/
def IsBoundary (line : Line) (byte : Nat) : Prop := ∃ before after, line = before ++ after ∧ utf8Length before = byte

/-- The boundaries at which the column has been reached. -/
def reaching (line : Line) (col : Nat) : Set Nat :=
  {byte | IsBoundary line byte ∧ ∃ c ∈ columnAtByte? line byte, col ≤ c}

/-- The column stands between the two code units of a character. -/
def SplitsPair (line : Line) (col : Nat) : Prop :=
  ∃ before c after, line = before ++ c :: after ∧ units c = 2 ∧ col = utf16Length before + 1

theorem units_le_two (c : Char) : units c ≤ 2 := by
  unfold units
  split
  · exact Nat.le_succ 1
  · exact Nat.le_refl 2

section Line

variable {line : Line} {byte col : Nat}

theorem isBoundary_iff : IsBoundary line byte ↔ ∃ k ≤ line.length, utf8Length (line.take k) = byte := by
  constructor
  · rintro ⟨before, after, rfl, rfl⟩
    refine ⟨before.length, ?_, by rw [List.take_left]⟩
    rw [List.length_append]
    exact Nat.le_add_right _ _
  · rintro ⟨k, _, rfl⟩
    exact ⟨line.take k, line.drop k, (List.take_append_drop k line).symm, rfl⟩

theorem splitsPair_iff :
    SplitsPair line col ↔ ∃ k < line.length, column line (k + 1) = column line k + 2 ∧ col = column line k + 1 := by
  constructor
  · rintro ⟨before, c, after, rfl, hunits, rfl⟩
    have hbefore : column (before ++ c :: after) before.length = utf16Length before := by
      unfold column
      rw [List.take_left]
    have hbehind : column (before ++ c :: after) (before.length + 1) = utf16Length before + 2 := by
      unfold column
      rw [List.take_length_add_append, utf16Length_append, List.take_succ_cons, List.take_zero, utf16Length_cons,
        hunits, utf16Length_nil]
    refine ⟨before.length, ?_, by rw [hbefore, hbehind], by rw [hbefore]⟩
    rw [List.length_append, List.length_cons]
    omega
  · rintro ⟨k, hk, hnext, rfl⟩
    obtain ⟨c, hline, hunits⟩ := exists_column_succ_eq hk
    exact ⟨line.take k, c, line.drop (k + 1), hline, by omega, rfl⟩

/-! ## Columns of byte offsets -/

theorem utf8Length_take_le_utf8Length (line : Line) (k : Nat) : utf8Length (line.take k) ≤ utf8Length line := by
  have hsplit : utf8Length line = utf8Length (line.take k) + utf8Length (line.drop k) := by
    rw [← utf8Length_append, List.take_append_drop]
  omega

theorem columnAtByte?_take (line : Line) (k : Nat) :
    columnAtByte? line (utf8Length (line.take k)) = some (column line k) := by
  have hsplit := splitAtByte?_append (line.take k) (line.drop k)
  rw [List.take_append_drop] at hsplit
  unfold columnAtByte?
  rw [Nat.min_eq_left (utf8Length_take_le_utf8Length line k), hsplit]
  rfl

/-- Only boundaries have columns; an offset behind the end counts as the end. -/
theorem exists_place_of_columnAtByte? (h : columnAtByte? line byte = some col) :
    ∃ k ≤ line.length, utf8Length (line.take k) = min byte (utf8Length line) ∧ column line k = col := by
  obtain ⟨⟨before, after⟩, hsplit, rfl⟩ := Option.map_eq_some_iff.1 h
  obtain ⟨hline, hbyte⟩ := splitAtByte?_eq_append hsplit
  refine ⟨before.length, ?_, ?_, ?_⟩
  · rw [hline, List.length_append]
    exact Nat.le_add_right _ _
  · rw [← hbyte, hline, List.take_left]
  · unfold column
    rw [hline, List.take_left]

theorem isSome_columnAtByte?_iff :
    (columnAtByte? line byte).isSome = true ↔ IsBoundary line byte ∨ utf8Length line < byte := by
  constructor
  · intro h
    obtain ⟨col, hcol⟩ := Option.isSome_iff_exists.1 h
    obtain ⟨k, hk, hbyte, _⟩ := exists_place_of_columnAtByte? hcol
    rcases Nat.lt_or_ge (utf8Length line) byte with hlt | hge
    · exact .inr hlt
    · rw [Nat.min_eq_left hge] at hbyte
      exact .inl (isBoundary_iff.2 ⟨k, hk, hbyte⟩)
  · rintro (hboundary | hlt)
    · obtain ⟨k, _, rfl⟩ := isBoundary_iff.1 hboundary
      rw [columnAtByte?_take]
      rfl
    · have hend := columnAtByte?_take line line.length
      unfold columnAtByte? at hend ⊢
      rw [List.take_length, Nat.min_self] at hend
      rw [Nat.min_eq_right hlt.le, hend]
      rfl

theorem columnAtByte?_le {byte' col' : Nat} (hle : byte ≤ byte') (h : columnAtByte? line byte = some col)
    (h' : columnAtByte? line byte' = some col') : col ≤ col' := by
  obtain ⟨i, hi, hbyte, rfl⟩ := exists_place_of_columnAtByte? h
  obtain ⟨j, hj, hbyte', rfl⟩ := exists_place_of_columnAtByte? h'
  refine column_le_column line (Nat.le_of_not_lt fun hlt => ?_)
  have hbytes := utf8Length_take_lt hlt (hlt.trans_le hi)
  omega

/-! ## Byte offsets of columns -/

theorem byteOffset_isLeast (line : Line) (col : Nat) :
    IsLeast (reaching line col) (byteOffset line col) ∨
      reaching line col = ∅ ∧ byteOffset line col = utf8Length line := by
  obtain ⟨k, hk, hbyte, hbefore, hreached⟩ := exists_byteOffset_eq line col
  have hreaching {byte : Nat} (h : byte ∈ reaching line col) :
      ∃ i ≤ line.length, utf8Length (line.take i) = byte ∧ col ≤ column line i := by
    obtain ⟨hboundary, c, hc, hle⟩ := h
    obtain ⟨i, hi, rfl⟩ := isBoundary_iff.1 hboundary
    rw [columnAtByte?_take] at hc
    obtain rfl := Option.some.inj hc
    exact ⟨i, hi, rfl, hle⟩
  by_cases hcol : col ≤ column line k
  · refine .inl ⟨⟨isBoundary_iff.2 ⟨k, hk, hbyte.symm⟩, column line k, ?_, hcol⟩, fun byte hmem => ?_⟩
    · rw [hbyte, columnAtByte?_take]
      rfl
    · obtain ⟨i, _, rfl, hle⟩ := hreaching hmem
      rw [hbyte]
      refine utf8Length_take_le line (Nat.le_of_not_lt fun hlt => ?_)
      exact absurd (hbefore i hlt) (Nat.not_lt_of_le hle)
  · -- The column lies behind the end of the line.
    obtain rfl : k = line.length := by
      by_contra hne
      exact hcol (hreached (Nat.lt_of_le_of_ne hk hne))
    rw [List.take_length] at hbyte
    refine .inr ⟨Set.eq_empty_of_forall_notMem fun byte hmem => ?_, hbyte⟩
    obtain ⟨i, hi, _, hle⟩ := hreaching hmem
    exact hcol (hle.trans (column_le_column line hi))

theorem columnAtByte?_byteOffset (h : col ≤ utf16Length line) :
    (¬ SplitsPair line col → columnAtByte? line (byteOffset line col) = some col) ∧
      (SplitsPair line col → columnAtByte? line (byteOffset line col) = some (col + 1)) := by
  obtain ⟨k, hk, hbyte, hbefore, hreached⟩ := exists_byteOffset_eq line col
  have hge : col ≤ column line k := by
    rcases hk.lt_or_eq with hlt | rfl
    · exact hreached hlt
    · unfold column
      rwa [List.take_length]
  rw [hbyte, columnAtByte?_take]
  refine ⟨fun hsplit => congrArg some ?_, fun hsplit => congrArg some ?_⟩
  · cases k with
    | zero => exact (Nat.le_zero.1 hge).symm
    | succ j =>
      have hlt := hbefore j (Nat.lt_succ_self j)
      obtain ⟨c, _, hnext⟩ := exists_column_succ_eq hk
      have htwo := units_le_two c
      by_contra hne
      exact hsplit (splitsPair_iff.2 ⟨j, hk, by omega, by omega⟩)
  · obtain ⟨j, hj, hnext, hcol⟩ := splitsPair_iff.1 hsplit
    obtain rfl : k = j + 1 := by
      refine Nat.le_antisymm (Nat.le_of_not_lt fun hlt => ?_) (Nat.le_of_not_lt fun hlt => ?_)
      · have hshort := hbefore (j + 1) hlt
        omega
      · have hshort := column_le_column line (Nat.le_of_lt_succ hlt)
        omega
    omega

theorem monotone_byteOffset (line : Line) : Monotone (byteOffset line) := by
  intro col col' hle
  obtain ⟨k, _, hbyte, hbefore, _⟩ := exists_byteOffset_eq line col
  obtain ⟨k', _, hbyte', _, hreached'⟩ := exists_byteOffset_eq line col'
  rw [hbyte, hbyte']
  refine utf8Length_take_le line (Nat.le_of_not_lt fun hlt => ?_)
  have hshort := hbefore k' hlt
  have hreached := hreached' (by omega)
  omega

end Line

/-- Columns and byte offsets of a line belong together.  Just the boundaries have columns, and the offsets behind the
end.  The offset of a column is the least boundary at which the column has been reached, or the end of the line.  So a
boundary is the offset of its column; a column that the line has is the column of its offset, unless it splits a pair of
code units: then the column of its offset is the next one.  Both conversions keep the order. -/
theorem columns_of_byteOffsets (line : Line) :
    (∀ byte, (columnAtByte? line byte).isSome = true ↔ IsBoundary line byte ∨ utf8Length line < byte) ∧
      (∀ col, IsLeast (reaching line col) (byteOffset line col) ∨
        reaching line col = ∅ ∧ byteOffset line col = utf8Length line) ∧
      (∀ byte, IsBoundary line byte → (columnAtByte? line byte).map (byteOffset line) = some byte) ∧
      (∀ col ≤ utf16Length line,
        (¬ SplitsPair line col → columnAtByte? line (byteOffset line col) = some col) ∧
          (SplitsPair line col → columnAtByte? line (byteOffset line col) = some (col + 1))) ∧
      Monotone (byteOffset line) ∧
      ∀ byte byte' col col', byte ≤ byte' → columnAtByte? line byte = some col → columnAtByte? line byte' = some col' →
        col ≤ col' := by
  refine ⟨fun byte => isSome_columnAtByte?_iff, byteOffset_isLeast line, fun byte h => ?_,
    fun col h => columnAtByte?_byteOffset h, monotone_byteOffset line,
    fun byte byte' col col' hle => columnAtByte?_le hle⟩
  obtain ⟨k, _, rfl⟩ := isBoundary_iff.1 h
  rw [columnAtByte?_take, Option.map_some, byteOffset_column]

/-- Of the columns 1 to 3 of this line, the second one splits a pair. -/
theorem columns_of_astral_line :
    let line := "é𝄞x".toList
    SplitsPair line 2 ∧ (byteOffset line 1, byteOffset line 2, byteOffset line 3) = (2, 6, 6) ∧
      columnAtByte? line (byteOffset line 2) = some 3 := by
  intro line
  have hpair : SplitsPair line 2 := ⟨['é'], '𝄞', ['x'], by decide, by decide, by decide⟩
  obtain ⟨_, _, _, hback, _⟩ := columns_of_byteOffsets line
  exact ⟨hpair, by decide, (hback 2 (by decide)).2 hpair⟩

end Traceability.Text
