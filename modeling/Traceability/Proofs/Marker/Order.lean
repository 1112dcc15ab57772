import Traceability.Proofs.Extraction.Sources
import Traceability.Proofs.Word.References
set_option autoImplicit false

/-!
# Claims in order

A list runs over identifiers, blanks and commas, and over nothing else.  So it never gets past a marker with any other
character in it, though it may run into the front of such a marker.  The claims of a file then stand one behind the
other, and nothing in it is claimed twice.
-/

namespace Traceability.Marker

open Text Document

/-! ## What a list runs over -/

/-- Whether the character may stand in a list of identifiers. -/
def isListChar (c : Char) : Bool := isIdentifierChar c || isBlank c || c == ','

theorem isListChar_eq_false_iff {c : Char} :
    isListChar c = false ↔ isIdentifierChar c = false ∧ isBlank c = false ∧ c ≠ ',' := by
  simp only [isListChar, Bool.or_eq_false_iff, beq_eq_false_iff_ne, and_assoc, ne_eq]

theorem WrittenItem.isListChar_text (w : WrittenItem) : ∀ c ∈ w.text, isListChar c = true := by
  intro c hc
  have hcases : isBlank c = true ∨ isIdentifierChar c = true := by
    rcases List.mem_append.1 hc with hfront | htrail
    · exact (List.mem_append.1 hfront).imp (w.isBlank_lead c) (w.isIdentifierChar_run c)
    · exact .inl (w.isBlank_trail c htrail)
  rcases hcases with h | h
  · simp [isListChar, h]
  · simp [isListChar, h]

/-- The items as they are written, with commas between them. -/
def listText (items : List WrittenItem) : List Char := [','].intercalate (items.map WrittenItem.text)

theorem listText_cons_cons (w v : WrittenItem) (others : List WrittenItem) :
    listText (w :: v :: others) = w.text ++ ',' :: listText (v :: others) := by
  simp only [listText, List.map_cons, List.intercalate_cons_cons, List.append_assoc, List.singleton_append]

theorem listText_singleton (w : WrittenItem) : listText [w] = w.text := by
  rw [listText, List.map_singleton, List.intercalate_singleton]

theorem isListChar_of_mem_listText {items : List WrittenItem} {c : Char} (h : c ∈ listText items) :
    isListChar c = true := by
  rcases mem_intercalate h with rfl | ⟨text, htext, hc⟩
  · decide
  · obtain ⟨w, _, rfl⟩ := List.mem_map.1 htext
    exact w.isListChar_text c hc

/-! ## Items of one list -/

/-- The place behind the identifier. -/
def Item.stop (item : Item) : Nat := item.place + item.id.length

theorem WrittenItem.length_id_le (w : WrittenItem) : w.id.length ≤ w.run.length := by
  have hsplit := congrArg List.length (dropEndWhile_append_eq (· == '.') w.run)
  rw [List.length_append] at hsplit
  unfold id
  omega

/-- An identifier ends where its item does, or in front of that. -/
theorem WrittenItem.stop_le (w : WrittenItem) (place : Nat) :
    (Item.mk (place + w.lead.length) w.id).stop ≤ place + w.text.length := by
  have hid := w.length_id_le
  have htext := w.length_text
  unfold Item.stop
  simp only
  omega

theorem le_place_of_mem_placed {place : Nat} {items : List WrittenItem} {item : Item}
    (h : item ∈ placed place items) : place ≤ item.place := by
  induction items generalizing place with
  | nil => cases h
  | cons w later ih =>
    rcases List.mem_cons.1 h with rfl | h
    · exact Nat.le_add_right _ _
    · have hlater := ih h
      omega

theorem stop_le_of_mem_placed {place : Nat} {items : List WrittenItem} {item : Item}
    (h : item ∈ placed place items) : item.stop ≤ place + (listText items).length := by
  induction items generalizing place with
  | nil => cases h
  | cons w later ih =>
    cases later with
    | nil =>
      obtain rfl := List.mem_singleton.1 h
      rw [listText_singleton]
      exact w.stop_le place
    | cons v others =>
      have hlength : (listText (w :: v :: others)).length = w.text.length + 1 + (listText (v :: others)).length := by
        rw [listText_cons_cons, List.length_append, List.length_cons]
        omega
      rcases List.mem_cons.1 h with rfl | h
      · have hstop := w.stop_le place
        omega
      · have hlater := ih h
        omega

/-- The comma between two items keeps their identifiers apart. -/
theorem pairwise_placed (place : Nat) (items : List WrittenItem) :
    (placed place items).Pairwise fun i j => i.stop < j.place := by
  induction items generalizing place with
  | nil => exact List.Pairwise.nil
  | cons w later ih =>
    refine List.pairwise_cons.2 ⟨fun j hj => ?_, ih _⟩
    have hstop := w.stop_le place
    have hplace := le_place_of_mem_placed hj
    omega

/-! ## Items of one line -/

/-- Behind an occurrence of a marker stands a list, maybe an empty one. -/
theorem exists_itemsAt_eq_placed {marker : List Char} {line : Line} {place : Nat} (h : Stands 0 line place marker) :
    ∃ before items tail, line = before ++ (listText items ++ tail) ∧ before.length = place + marker.length ∧
      itemsAt marker line place = placed (place + marker.length) items := by
  obtain ⟨before, after, rfl, hplace⟩ := h
  rw [Nat.zero_add] at hplace
  subst hplace
  have hlength : (before ++ marker).length = before.length + marker.length := List.length_append
  by_cases hword : IsWord before after
  · obtain ⟨items, ⟨tail, hafter, _⟩, hplaced⟩ := exists_beginsWith (before.length + marker.length) after
    refine ⟨before ++ marker, items, tail, ?_, hlength, ?_⟩
    · exact congrArg (before ++ marker ++ ·) hafter
    · rw [itemsAt_of_isWord hword, hplaced]
  · exact ⟨before ++ marker, [], after, rfl, hlength, itemsAt_of_not_isWord hword⟩

/-- A list that begins in front of a marker does not get past a character of the marker that stands in no list. -/
theorem stop_lt_place_of_mem_itemsAt {marker : List Char} (hmarker : ∃ c ∈ marker, isListChar c = false) {line : Line}
    {p q : Nat} (hp : Stands 0 line p marker) (hq : Stands 0 line q marker) (hle : p + marker.length ≤ q)
    {i j : Item} (hi : i ∈ itemsAt marker line p) (hj : j ∈ itemsAt marker line q) : i.stop < j.place := by
  obtain ⟨c, hc, hnone⟩ := hmarker
  obtain ⟨front, back, rfl⟩ := List.append_of_mem hc
  obtain ⟨before, items, tail, hline, hbefore, hitems⟩ := exists_itemsAt_eq_placed hp
  obtain ⟨_, later, _, _, _, hlater⟩ := exists_itemsAt_eq_placed hq
  rw [hitems] at hi
  rw [hlater] at hj
  have hstop := stop_le_of_mem_placed hi
  have hplace := le_place_of_mem_placed hj
  have hlength : (front ++ c :: back).length = front.length + 1 + back.length := by
    rw [List.length_append, List.length_cons]
    omega
  -- Otherwise the character would stand in the list.
  have hbound : p + (front ++ c :: back).length + (listText items).length ≤ q + front.length := by
    by_contra hlt
    obtain ⟨ahead, after, hmarked, hahead⟩ := hq
    have hstands : (line)[q + front.length]? = some c := by
      have hsplit : line = (ahead ++ front) ++ c :: (back ++ after) := by
        rw [hmarked]
        simp only [List.append_assoc, List.cons_append]
      have hend : (ahead ++ front).length = q + front.length := by
        rw [List.length_append]
        omega
      rw [hsplit, ← hend, List.getElem?_append_right (Nat.le_refl _), Nat.sub_self, List.getElem?_cons_zero]
    have hread : (listText items)[q + front.length - before.length]? = some c := by
      rw [hline, List.getElem?_append_right (by omega), List.getElem?_append_left (by omega)] at hstands
      exact hstands
    have hlist := isListChar_of_mem_listText (List.mem_of_getElem? hread)
    rw [hnone] at hlist
    cases hlist
  omega

theorem pairwise_itemsOfLine {marker : List Char} (hmarker : ∃ c ∈ marker, isListChar c = false) (line : Line) :
    (itemsOfLine marker line).Pairwise fun i j => i.stop < j.place := by
  have hne : marker ≠ [] := by
    rintro rfl
    simp at hmarker
  have hplaces := areLeftmost_occurrences hne 0 line
  rw [itemsOfLine_eq, List.pairwise_flatMap]
  constructor
  · intro p hp
    obtain ⟨_, items, _, _, _, hitems⟩ := exists_itemsAt_eq_placed (hplaces.stands p hp)
    rw [hitems]
    exact pairwise_placed _ items
  · refine hplaces.apart.imp_of_mem fun hp hq hle i hi j hj => ?_
    exact stop_lt_place_of_mem_itemsAt hmarker (hplaces.stands _ hp) (hplaces.stands _ hq) hle hi hj

/-! ## Claims of a file -/

/-- A claimed id is the front of a run, so it is written at its place. -/
theorem Item.IsWritten.exists_line_eq {line : Line} {item : Item} (h : item.IsWritten line) :
    ∃ before after, line = before ++ item.id ++ after ∧ item.place = before.length := by
  obtain ⟨before, run, after, hline, _, hplace, hid⟩ := h.exists_run
  refine ⟨before, (run.reverse.takeWhile (· == '.')).reverse ++ after, ?_, hplace⟩
  rw [hline, hid]
  conv_lhs => rw [← dropEndWhile_append_eq (· == '.') run]
  simp only [List.append_assoc]

theorem Item.IsWritten.stop_le_length {line : Line} {item : Item} (h : item.IsWritten line) :
    item.stop ≤ line.length := by
  obtain ⟨before, after, hline, hplace⟩ := h.exists_line_eq
  unfold Item.stop
  rw [hline, hplace, List.length_append, List.length_append]
  exact Nat.le_add_right _ _

/-- Places in order on a line are positions in order. -/
theorem position_lt_position (l : NumberedLine) {i j : Nat} (h : i < j) (hi : i < l.text.length) :
    l.position i < l.position j :=
  (Position.lt_iff _ _).2 (.inr ⟨rfl, column_lt_column h hi⟩)

theorem pairwise_number_numbered (ls : List Line) : (numbered ls).Pairwise fun l m => l.number < m.number := by
  rw [← List.pairwise_map, map_number_numbered]
  exact List.pairwise_lt_range

/-- If no list gets past the marker, the claims of a file stand one behind the other. -/
theorem pairwise_references_scan {marker : String} (hmarker : ∃ c ∈ marker.toList, isListChar c = false)
    (uri text : String) : (scan uri text marker).references.Pairwise fun r s => r.range.stop < s.range.start := by
  refine List.pairwise_flatMap.2 ⟨fun l _ => ?_, ?_⟩
  · refine List.pairwise_map.2 ((pairwise_itemsOfLine hmarker l.text).imp_of_mem fun hi hj hlt => ?_)
    have hstop := (isWritten_of_mem_itemsOfLine hj).stop_le_length
    refine position_lt_position l hlt ?_
    unfold Item.stop at *
    omega
  · refine (pairwise_number_numbered (lines text)).imp fun {l m} hlt r hr s hs => ?_
    obtain ⟨i, _, rfl⟩ := List.mem_map.1 hr
    obtain ⟨j, _, rfl⟩ := List.mem_map.1 hs
    exact Position.lt_of_line_lt hlt

/-- Each claim of a file is an identifier, which its range cuts out of one line. -/
theorem isWrittenIn_of_mem_scan {uri text marker : String} {r : Reference}
    (h : r ∈ (scan uri text marker).references) :
    r.range.start < r.range.stop ∧ isIdentifier r.id.toList = true ∧
      (Phrase.mk r.id.toList r.range).IsWrittenIn (lines text) := by
  obtain ⟨l, hl, item, hwritten, rfl⟩ := exists_isWritten_of_mem_scan h
  obtain ⟨before, after, hline, hplace⟩ := hwritten.exists_line_eq
  have hid : (String.ofList item.id).toList = item.id := String.toList_ofList
  have hpos := List.length_pos_iff.2 (ne_nil_of_isIdentifier hwritten.isIdentifier_id)
  have hstop := hwritten.stop_le_length
  simp only [Item.reference, hid]
  refine ⟨position_lt_position l (by omega) ?_, hwritten.isIdentifier_id, rfl, l.text, ?_, ?_⟩
  · unfold Item.stop at hstop
    omega
  · exact (mem_numbered_iff _ l).1 hl
  · have hslice := slice?_column hline
    rw [List.length_append, ← hplace] at hslice
    exact hslice

/-- If no list gets past the marker, the claims of a file stand one behind the other, none of them empty.  Each is an
identifier, it stands on one line, and the columns of its range cut it out of that line. -/
theorem claims_in_order {marker : String} (uri text : String)
    (hmarker : ∃ c ∈ marker.toList, isIdentifierChar c = false ∧ isBlank c = false ∧ c ≠ ',') :
    let claims := (scan uri text marker).references
    claims.Pairwise (fun r s => r.range.stop < s.range.start) ∧
      ∀ r ∈ claims, r.range.start < r.range.stop ∧ isIdentifier r.id.toList = true ∧
        (Phrase.mk r.id.toList r.range).IsWrittenIn (lines text) := by
  intro claims
  obtain ⟨c, hc, hnone⟩ := hmarker
  exact ⟨pairwise_references_scan ⟨c, hc, isListChar_eq_false_iff.2 hnone⟩ uri text, fun r hr =>
    isWrittenIn_of_mem_scan hr⟩

/-- The first list runs into the next marker, as far as the dollar sign, and claims the letter in front of it. -/
theorem claims_in_order_into_marker :
    (∃ c ∈ "A$".toList, isIdentifierChar c = false ∧ isBlank c = false ∧ c ≠ ',') ∧
      let text := "// A$ B, A$ C.d.\n"
      let claims := (scan "a.c" text "A$").references
      claims.map Reference.id = ["B", "A", "C.d"] ∧ claims.Pairwise (fun r s => r.range.stop < s.range.start) ∧
        ∀ r ∈ claims, r.range.start < r.range.stop ∧ isIdentifier r.id.toList = true ∧
          (Phrase.mk r.id.toList r.range).IsWrittenIn (lines text) := by
  have hmarker : ∃ c ∈ "A$".toList, isIdentifierChar c = false ∧ isBlank c = false ∧ c ≠ ',' :=
    ⟨'$', by decide +kernel, by decide +kernel, by decide +kernel, by decide⟩
  exact ⟨hmarker, by decide +kernel, claims_in_order "a.c" _ hmarker⟩

end Traceability.Marker
