import Traceability.Proofs.Marker.Grammar
import Traceability.Proofs.Word.Phrases
import Traceability.Proofs.Word.Runs
set_option autoImplicit false

/-!
# Claimed ids under a cursor

A scan of a plain file takes asterisks for characters like any other, but a cursor looks for emphasised phrases first,
in plain files as well.  So a cursor on a claimed id denotes that id, unless it touches a phrase; then it denotes the
phrase.  Comments and pointers make such phrases.
-/

namespace Traceability

open Text Document

/-! ## The run around a cursor -/

/-- An identifier begins with no dot. -/
theorem dropWhile_dot_append {s : List Char} (h : isIdentifier s = true) (rest : List Char) :
    (s ++ rest).dropWhile (· == '.') = s ++ rest := by
  rw [dropWhile_dot_eq_self_iff]
  cases s with
  | nil => cases h
  | cons c others => exact (ne_dot_of_isIdentifier h).1

/-- Wherever a cursor cuts a run, the run is found again, and dots at its end are dropped. -/
theorem runAround?_of_isRun {before first second after : List Char} (h : IsRun before (first ++ second) after)
    (hid : isIdentifier (dropEndWhile (· == '.') (first ++ second)) = true) :
    (runAround? (before ++ first) (second ++ after)).map Word.text =
      some (dropEndWhile (· == '.') (first ++ second)) := by
  have hdots : (first ++ second).dropWhile (· == '.') = first ++ second := by
    rw [← dropEndWhile_append_eq (· == '.') (first ++ second)]
    exact dropWhile_dot_append hid _
  rw [runAround?_append h]
  unfold runWord?
  rw [hdots]
  split
  · next hnone => exact absurd hnone (ne_nil_of_isIdentifier hid)
  · rfl

/-! ## Claimed ids -/

namespace Marker

/-- An item of a list, with what stands around its run.  Dots may follow the id. -/
structure Item.IsWritten (line : Line) (item : Item) : Prop where
  exists_run : ∃ before run after, line = before ++ run ++ after ∧ IsRun before run after ∧ item.place = before.length ∧
    item.id = dropEndWhile (· == '.') run
  isIdentifier_id : isIdentifier item.id = true

section List

variable {before : List Char} (hbefore : ∀ c ∈ before.getLast?, isIdentifierChar c = false)

include hbefore

theorem isWritten_of_endsBefore {w : WrittenItem} {tail : List Char} (h : w.EndsBefore tail) :
    (Item.mk (before.length + w.lead.length) w.id).IsWritten (before ++ (w.text ++ tail)) := by
  refine ⟨⟨before ++ w.lead, w.run, w.trail ++ tail, ?_, ⟨w.isIdentifierChar_run, ?_, h.isIdentifierChar_head⟩, ?_, rfl⟩,
    w.isIdentifier_id⟩
  · rw [w.text_append]
    simp only [List.append_assoc]
  · intro c hc
    rw [List.getLast?_append] at hc
    cases hlead : w.lead.getLast? with
    | none =>
      rw [hlead, Option.none_or] at hc
      exact hbefore c hc
    | some blank =>
      rw [hlead, Option.some_or] at hc
      obtain rfl := Option.some.inj hc
      exact isIdentifierChar_eq_false_of_isBlank (w.isBlank_lead _ (List.mem_of_getLast? hlead))
  · rw [List.length_append]

/-- If no identifier character stands in front of a list, none stands in front of its items. -/
theorem isWritten_of_mem_placed {items : List WrittenItem} {text : List Char} (h : BeginsWith text items) {item : Item}
    (hitem : item ∈ placed before.length items) : item.IsWritten (before ++ text) := by
  induction items generalizing before text with
  | nil => cases hitem
  | cons w later ih =>
    cases later with
    | nil =>
      obtain ⟨tail, rfl, hends⟩ := beginsWith_singleton_iff.1 h
      obtain rfl := List.mem_singleton.1 hitem
      exact isWritten_of_endsBefore hbefore hends
    | cons v others =>
      obtain ⟨later, rfl, hlater⟩ := beginsWith_cons_cons_iff.1 h
      rcases List.mem_cons.1 hitem with rfl | hitem
      · exact isWritten_of_endsBefore hbefore (w.endsBefore_comma later)
      · have hsplit : before ++ (w.text ++ ',' :: later) = (before ++ w.text ++ [',']) ++ later := by
          simp only [List.append_assoc, List.singleton_append]
        have hcomma : ∀ c ∈ (before ++ w.text ++ [',']).getLast?, isIdentifierChar c = false := by
          intro c hc
          rw [List.getLast?_concat] at hc
          obtain rfl := Option.some.inj hc
          exact isIdentifierChar_comma
        rw [hsplit]
        refine ih hcomma hlater ?_
        rw [List.length_append, List.length_append]
        exact hitem

end List

/-- Each item of a line is written there as a run of its own. -/
theorem isWritten_of_mem_itemsOfLine {marker : List Char} {line : Line} {item : Item}
    (h : item ∈ itemsOfLine marker line) : item.IsWritten line := by
  rw [itemsOfLine_eq] at h
  obtain ⟨place, hplace, hitem⟩ := List.mem_flatMap.1 h
  have hmarker : marker ≠ [] := by
    rintro rfl
    rw [occurrences, if_pos rfl] at hplace
    cases hplace
  obtain ⟨before, after, rfl, hstart⟩ := (areLeftmost_occurrences hmarker 0 line).stands place hplace
  rw [Nat.zero_add] at hstart
  subst hstart
  by_cases hword : IsWord before after
  · rw [itemsAt_of_isWord hword] at hitem
    obtain ⟨_, blank, hhead, hblank⟩ := hword
    obtain ⟨rest, rfl⟩ := List.head?_eq_some_iff.1 hhead
    -- The blank behind the marker keeps the first item apart from it.
    have hbefore : ∀ c ∈ (before ++ marker ++ [blank]).getLast?, isIdentifierChar c = false := by
      intro c hc
      rw [List.getLast?_concat] at hc
      obtain rfl := Option.some.inj hc
      exact isIdentifierChar_eq_false_of_isBlank hblank
    have hlength : before.length + marker.length + 1 = (before ++ marker ++ [blank]).length := by
      rw [List.length_append, List.length_append, List.length_singleton]
    obtain ⟨items, hbegins, hplaced⟩ := exists_beginsWith (before ++ marker ++ [blank]).length rest
    rw [itemsFrom_cons_of_isBlank hblank, hlength, ← hplaced] at hitem
    have hwritten := isWritten_of_mem_placed hbefore hbegins hitem
    rwa [List.append_assoc _ [blank], List.singleton_append] at hwritten
  · rw [itemsAt_of_not_isWord hword] at hitem
    cases hitem

/-- Each claim of a scan is an item that is written on its line. -/
theorem exists_isWritten_of_mem_scan {uri text marker : String} {r : Reference}
    (h : r ∈ (scan uri text marker).references) :
    ∃ l ∈ numbered (lines text), ∃ item : Item, item.IsWritten l.text ∧ r = item.reference uri l := by
  obtain ⟨l, hl, hr⟩ := List.mem_flatMap.1 h
  obtain ⟨item, hitem, rfl⟩ := List.mem_map.1 hr
  exact ⟨l, hl, item, isWritten_of_mem_itemsOfLine hitem, rfl⟩

end Marker

/-! ## Cursors on claimed ids -/

/-- A cursor on a claimed id, or right behind it, denotes that id, unless it touches an emphasised phrase of its line.
Then it denotes the first such phrase; only a phrase without any text leaves it the id. -/
theorem wordAtPosition_of_mem_scan {uri text marker : String} {r : Reference}
    (h : r ∈ (Marker.scan uri text marker).references) {p : Position} (hp : r.range.contains p = true) :
    ∃ line, (lines text)[p.line]? = some line ∧
      wordAtPosition text p =
        some ((((phrasesOf line).find? (touches line (byteOffset line p.character))).bind phraseText?).getD
          r.id.toList) := by
  obtain ⟨l, hl, hr⟩ := List.mem_flatMap.1 h
  obtain ⟨item, hitem, rfl⟩ := List.mem_map.1 hr
  obtain ⟨⟨before, run, after, hline, hrun, hplace, hid⟩, hidentifier⟩ := Marker.isWritten_of_mem_itemsOfLine hitem
  have hwithin : item.place ≤ l.text.length := by
    rw [hplace, hline, List.append_assoc, List.length_append]
    exact Nat.le_add_right _ _
  obtain ⟨hnumber, k, hk, hbyte, hle, hge⟩ := exists_place_of_contains hwithin hp
  have htext := (mem_numbered_iff _ _).1 hl
  rw [← hnumber] at htext
  refine ⟨l.text, htext, ?_⟩
  -- The cursor cuts the run; dots behind the id belong to the second part.
  obtain ⟨first, second, rfl, hlength⟩ : ∃ first second, run = first ++ second ∧ k = (before ++ first).length := by
    have hdots : item.id.length ≤ run.length := by
      rw [hid, ← dropEndWhile_append_eq (· == '.') run, List.length_append, dropEndWhile_append_eq]
      exact Nat.le_add_right _ _
    refine ⟨run.take (k - before.length), run.drop (k - before.length), (List.take_append_drop _ _).symm, ?_⟩
    rw [List.length_append, List.length_take]
    omega
  have hsplit : l.text = (before ++ first) ++ (second ++ after) := by
    rw [hline]
    simp only [List.append_assoc]
  have htake : l.text.take k = before ++ first := by
    rw [hsplit, hlength, List.take_left]
  rw [htake] at hbyte
  have hword := wordAtPosition_eq (hsplit ▸ htext) (hsplit ▸ hbyte)
  rw [runAround?_of_isRun hrun (hid ▸ hidentifier), ← hsplit, ← hid, ← hbyte] at hword
  rw [hword, Option.or_some, String.toList_ofList]

/-- Behind a pointer and an operator the id is found, and so is one that a sentence ends with. -/
theorem wordAtPosition_of_claim_behind_asterisks :
    let text := "*p = a * b; // $$Implements A, B.c.\n"
    (⟨"B.c", "a.c", .onLine 0 31 34⟩ : Reference) ∈ (Marker.scan "a.c" text Marker.standard).references ∧
      wordAtPosition text ⟨0, 34⟩ = some "B.c".toList := by
  intro text
  have hclaim : (⟨"B.c", "a.c", .onLine 0 31 34⟩ : Reference) ∈ (Marker.scan "a.c" text Marker.standard).references := by
    decide +kernel
  have hphrase : ∀ line ∈ (lines text)[0]?,
      ((phrasesOf line).find? (touches line (byteOffset line 34))).bind phraseText? = none := by decide +kernel
  obtain ⟨line, hline, hword⟩ := wordAtPosition_of_mem_scan hclaim (p := ⟨0, 34⟩) (by decide)
  rw [hphrase line hline] at hword
  exact ⟨hclaim, hword⟩

/-- In a comment that begins with an exclamation mark the asterisks of both delimiters make a phrase, which hides the
id. -/
theorem wordAtPosition_of_claim_in_comment :
    let text := "/*! $$Implements A */\n"
    let claim : Reference := ⟨"A", "a.c", .onLine 0 17 18⟩
    claim ∈ (Marker.scan "a.c" text Marker.standard).references ∧ claim.range.contains ⟨0, 17⟩ = true ∧
      wordAtPosition text ⟨0, 17⟩ = some "! $$Implements A".toList ∧
      wordAtPosition text ⟨0, 17⟩ ≠ some claim.id.toList := by
  decide +kernel

end Traceability
