import Traceability.Text.Offset
set_option autoImplicit false

/-!
# Parts of a line by their offsets

Byte offsets cut a part out of a line if both of them denote places.  Where a part begins and ends can be told in
columns as well: the byte offset of the column of a place is the byte offset of that place, whatever characters stand in
front.
-/

namespace Traceability.Text

/-- The part of a line between two byte offsets; none if one of them denotes no place or they are out of order. -/
def slice? (line : Line) (start stop : Nat) : Option Line :=
  (splitAtByte? line stop).bind fun (before, _) => (splitAtByte? before start).map Prod.snd

theorem splitAtByte?_append (before after : Line) :
    splitAtByte? (before ++ after) (utf8Length before) = some (before, after) := by
  induction before with
  | nil => rw [List.nil_append, utf8Length_nil, splitAtByte?]
  | cons c rest ih =>
    have hpos : 0 < c.utf8Size := c.utf8Size_pos
    obtain ⟨n, hn⟩ : ∃ n, utf8Length (c :: rest) = n + 1 := by
      refine ⟨utf8Length (c :: rest) - 1, ?_⟩
      rw [utf8Length_cons]
      omega
    have hfits : c.utf8Size ≤ n + 1 := by
      rw [← hn, utf8Length_cons]
      omega
    have hrest : n + 1 - c.utf8Size = utf8Length rest := by
      rw [← hn, utf8Length_cons]
      omega
    rw [List.cons_append, hn, splitAtByte?, if_pos hfits, hrest, ih]
    rfl

/-- The offsets of both of its ends cut a part out of its line. -/
theorem slice?_append (before part after : Line) :
    slice? (before ++ part ++ after) (utf8Length before) (utf8Length (before ++ part)) = some part := by
  unfold slice?
  rw [splitAtByte?_append (before ++ part) after]
  simp only [Option.bind_some, splitAtByte?_append before part, Option.map_some]

theorem byteOffset_append (before after : Line) :
    byteOffset (before ++ after) (utf16Length before) = utf8Length before := by
  induction before with
  | nil => rw [List.nil_append, utf16Length_nil, utf8Length_nil, byteOffset]
  | cons c rest ih =>
    have hpos := units_pos c
    obtain ⟨n, hn⟩ : ∃ n, utf16Length (c :: rest) = n + 1 := by
      refine ⟨utf16Length (c :: rest) - 1, ?_⟩
      rw [utf16Length_cons]
      omega
    have hrest : n + 1 - units c = utf16Length rest := by
      rw [← hn, utf16Length_cons]
      omega
    rw [List.cons_append, hn, byteOffset, hrest, ih, utf8Length_cons]

theorem utf8Length_take_le (line : Line) {i j : Nat} (h : i ≤ j) :
    utf8Length (line.take i) ≤ utf8Length (line.take j) := by
  obtain ⟨more, hmore⟩ : line.take i <+: line.take j := List.take_prefix_take_left h
  rw [← hmore, utf8Length_append]
  exact Nat.le_add_right _ _

theorem utf8Length_take_lt {text : Line} {i j : Nat} (h : i < j) (hi : i < text.length) :
    utf8Length (text.take i) < utf8Length (text.take j) := by
  have hnext : utf8Length (text.take (i + 1)) = utf8Length (text.take i) + (text[i]).utf8Size := by
    rw [List.take_succ_eq_append_getElem hi, utf8Length_append, utf8Length_cons, utf8Length_nil, Nat.add_zero]
  have hpos := (text[i]).utf8Size_pos
  have hle := utf8Length_take_le text (i := i + 1) h
  omega

/-- Different places of a line have different byte offsets. -/
theorem eq_of_utf8Length_take_eq {text : Line} {i j : Nat} (hi : i ≤ text.length) (hj : j ≤ text.length)
    (h : utf8Length (text.take i) = utf8Length (text.take j)) : i = j := by
  rcases Nat.lt_trichotomy i j with hlt | heq | hgt
  · exact absurd h (Nat.ne_of_lt (utf8Length_take_lt hlt (Nat.lt_of_lt_of_le hlt hj)))
  · exact heq
  · exact absurd h.symm (Nat.ne_of_lt (utf8Length_take_lt hgt (Nat.lt_of_lt_of_le hgt hi)))

theorem eq_nil_of_utf8Length_eq_zero {text : Line} (h : utf8Length text = 0) : text = [] := by
  cases text with
  | nil => rfl
  | cons c rest =>
    have hpos := c.utf8Size_pos
    rw [utf8Length_cons] at h
    omega

/-- A byte offset that is taken from a column is that of the first place where the column has been reached, or of the end
of the line. -/
theorem exists_byteOffset_eq (line : Line) (col : Nat) :
    ∃ k ≤ line.length, byteOffset line col = utf8Length (line.take k) ∧ (∀ i < k, column line i < col) ∧
      (k < line.length → col ≤ column line k) := by
  fun_induction byteOffset line col with
  | case1 line => exact ⟨0, Nat.zero_le _, rfl, fun i hi => absurd hi (Nat.not_lt_zero i), fun _ => Nat.zero_le _⟩
  | case2 col =>
    exact ⟨0, Nat.le_refl 0, rfl, fun i hi => absurd hi (Nat.not_lt_zero i), fun hlt => absurd hlt (Nat.lt_irrefl 0)⟩
  | case3 c rest col ih =>
    obtain ⟨k, hk, hbyte, hbefore, hreached⟩ := ih
    have hcolumn (i : Nat) : column (c :: rest) (i + 1) = units c + column rest i := rfl
    refine ⟨k + 1, Nat.succ_le_succ hk, by rw [hbyte]; rfl, fun i hi => ?_, fun hlt => ?_⟩
    · cases i with
      | zero => exact Nat.succ_pos col
      | succ i =>
        have hlater := hbefore i (Nat.lt_of_succ_lt_succ hi)
        rw [hcolumn]
        omega
    · have hlater := hreached (Nat.lt_of_succ_lt_succ hlt)
      rw [hcolumn]
      omega

/-- The byte offset of the column of a place is the byte offset of the place. -/
theorem byteOffset_column (line : Line) (place : Nat) :
    byteOffset line (column line place) = utf8Length (line.take place) := by
  have happend := byteOffset_append (line.take place) (line.drop place)
  rw [List.take_append_drop] at happend
  exact happend

/-- The byte offsets of the places at both of its ends cut a part out of its line. -/
theorem slice?_take {line before part after : Line} (h : line = before ++ part ++ after) :
    slice? line (utf8Length (line.take before.length)) (utf8Length (line.take (before ++ part).length)) =
      some part := by
  have hbefore : line.take before.length = before := by
    rw [h, List.append_assoc, List.take_left]
  have hpart : line.take (before ++ part).length = before ++ part := by
    rw [h, List.take_left]
  rw [hbefore, hpart, h]
  exact slice?_append before part after

/-- The columns of both of its ends cut a part out of its line. -/
theorem slice?_column {line before part after : Line} (h : line = before ++ part ++ after) :
    slice? line (byteOffset line (column line before.length))
      (byteOffset line (column line (before ++ part).length)) = some part := by
  rw [byteOffset_column, byteOffset_column]
  exact slice?_take h

end Traceability.Text
