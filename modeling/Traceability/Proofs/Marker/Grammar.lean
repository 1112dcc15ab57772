import Mathlib.Data.List.TakeWhile
import Traceability.Proofs.Document.Partition
import Traceability.Proofs.Identifier
import Traceability.Proofs.Marker.Occurrences
import Traceability.Proofs.Text.Fields
set_option autoImplicit false

/-!
# The grammar of marked lists

What a plain file claims is told by a grammar, without reading anything from left to right.  A marker that does not end
a longer word and that a blank follows introduces the longest list of good items with commas between them.  An item is
good if its run of identifier characters, without the dots at the end, is an identifier.
-/

namespace Traceability.Marker

open Text Document

/-! ## Lists of items -/

/-- A good item of a list as it is written: a run of identifier characters and the blanks around it. -/
structure WrittenItem where
  lead : List Char
  run : List Char
  trail : List Char
  isBlank_lead : ∀ c ∈ lead, isBlank c = true
  isIdentifierChar_run : ∀ c ∈ run, isIdentifierChar c = true
  isBlank_trail : ∀ c ∈ trail, isBlank c = true
  isIdentifier_id : isIdentifier (dropEndWhile (· == '.') run) = true

namespace WrittenItem

/-- The item with its blanks. -/
def text (w : WrittenItem) : List Char := w.lead ++ w.run ++ w.trail

/-- The identifier, without the dots at the end of the run. -/
def id (w : WrittenItem) : List Char := dropEndWhile (· == '.') w.run

/-- The run of the item does not go on in the text that follows the item. -/
def EndsBefore (w : WrittenItem) (tail : List Char) : Prop :=
  w.trail = [] → ∀ c ∈ tail.head?, isIdentifierChar c = false

end WrittenItem

/-- The text begins with the items and a comma between two of them, and the run of the last one is not cut short.  A
comma and a blank end a run anyway, so this need not be said of the others. -/
def BeginsWith (text : List Char) (items : List WrittenItem) : Prop :=
  ∃ tail, text = [','].intercalate (items.map WrittenItem.text) ++ tail ∧ ∀ w ∈ items.getLast?, w.EndsBefore tail

/-- The longest list with which the text begins. -/
structure BeginsWithLongest (text : List Char) (items : List WrittenItem) : Prop where
  begins : BeginsWith text items
  longest : ∀ others, BeginsWith text others → others.length ≤ items.length

/-- The identifiers of a list that begins at the place `place`, with their places. -/
def placed (place : Nat) : List WrittenItem → List Item
  | [] => []
  | w :: later => ⟨place + w.lead.length, w.id⟩ :: placed (place + w.text.length + 1) later

theorem length_placed (place : Nat) (items : List WrittenItem) : (placed place items).length = items.length := by
  induction items generalizing place with
  | nil => rfl
  | cons w later ih => rw [placed, List.length_cons, List.length_cons, ih]

/-! ## Reading a list that is written -/

theorem isIdentifierChar_comma : isIdentifierChar ',' = false := by decide

theorem isBlank_comma : isBlank ',' = false := by decide

namespace WrittenItem

variable (w : WrittenItem) {tail : List Char}

theorem run_ne_nil : w.run ≠ [] := by
  intro h
  have hid := w.isIdentifier_id
  rw [h] at hid
  cases hid

theorem isBlank_run {c : Char} (h : c ∈ w.run) : isBlank c = false :=
  isBlank_eq_false_of_isIdentifierChar (w.isIdentifierChar_run c h)

theorem text_append (tail : List Char) : w.text ++ tail = w.lead ++ (w.run ++ (w.trail ++ tail)) := by
  unfold text
  simp only [List.append_assoc]

theorem length_text : w.text.length = w.lead.length + w.run.length + w.trail.length := by
  unfold text
  simp only [List.length_append]

/-- The run begins with no blank. -/
theorem isBlank_head (tail : List Char) : ∀ c ∈ (w.run ++ tail).head?, isBlank c = false := by
  intro c hc
  rw [List.head?_append_of_ne_nil _ w.run_ne_nil] at hc
  exact w.isBlank_run (List.mem_of_mem_head? hc)

theorem takeWhile_text (tail : List Char) : (w.text ++ tail).takeWhile isBlank = w.lead := by
  rw [text_append]
  exact takeWhile_append_eq_left w.isBlank_lead (w.isBlank_head _)

theorem trimStart_text (tail : List Char) : trimStart (w.text ++ tail) = w.run ++ (w.trail ++ tail) := by
  rw [text_append]
  exact dropWhile_append_eq_right w.isBlank_lead (w.isBlank_head _)

variable {w}

/-- Neither a blank behind the run nor what follows the item belongs to the run. -/
theorem EndsBefore.isIdentifierChar_head (h : w.EndsBefore tail) :
    ∀ c ∈ (w.trail ++ tail).head?, isIdentifierChar c = false := by
  intro c hc
  cases htrail : w.trail with
  | nil =>
    rw [htrail] at hc
    exact h htrail c hc
  | cons blank others =>
    rw [htrail] at hc
    obtain rfl := Option.some.inj hc
    exact isIdentifierChar_eq_false_of_isBlank (w.isBlank_trail blank (htrail ▸ List.mem_cons_self))

theorem EndsBefore.takeWhile_run (h : w.EndsBefore tail) :
    (trimStart (w.text ++ tail)).takeWhile isIdentifierChar = w.run := by
  rw [trimStart_text]
  exact takeWhile_append_eq_left w.isIdentifierChar_run h.isIdentifierChar_head

theorem EndsBefore.afterRun_text (h : w.EndsBefore tail) : afterRun (w.text ++ tail) = w.trail ++ tail := by
  unfold afterRun
  rw [trimStart_text]
  exact dropWhile_append_eq_right w.isIdentifierChar_run h.isIdentifierChar_head

theorem endsBefore_comma (w : WrittenItem) (later : List Char) : w.EndsBefore (',' :: later) := by
  intro _ c hc
  obtain rfl := Option.some.inj hc
  exact isIdentifierChar_comma

end WrittenItem

/-- The first item is read if it is good, whatever follows it. -/
theorem exists_itemsFrom_eq_cons {w : WrittenItem} {tail : List Char} (h : w.EndsBefore tail) (place : Nat) :
    ∃ later, itemsFrom place (w.text ++ tail) = ⟨place + w.lead.length, w.id⟩ :: later := by
  rw [itemsFrom]
  simp only [h.takeWhile_run, w.isIdentifier_id, blanksBefore, w.takeWhile_text, if_true]
  split
  · exact ⟨_, rfl⟩
  · exact ⟨_, rfl⟩

/-- Behind a comma the list goes on. -/
theorem itemsFrom_comma (w : WrittenItem) (later : List Char) (place : Nat) :
    itemsFrom place (w.text ++ ',' :: later) =
      ⟨place + w.lead.length, w.id⟩ :: itemsFrom (place + w.text.length + 1) later := by
  have hends := w.endsBefore_comma later
  have hcomma : ∀ c ∈ (',' :: later).head?, isBlank c = false := by
    intro c hc
    obtain rfl := Option.some.inj hc
    exact isBlank_comma
  have htrail : (w.trail ++ ',' :: later).takeWhile isBlank = w.trail :=
    takeWhile_append_eq_left w.isBlank_trail hcomma
  have hlater : trimStart (afterRun (w.text ++ ',' :: later)) = ',' :: later := by
    rw [hends.afterRun_text]
    exact dropWhile_append_eq_right w.isBlank_trail hcomma
  have hplace : place + w.lead.length + w.run.length + w.trail.length + 1 = place + w.text.length + 1 := by
    rw [w.length_text]
    omega
  rw [itemsFrom]
  simp only [hends.takeWhile_run, hends.afterRun_text, w.isIdentifier_id, blanksBefore, w.takeWhile_text, htrail,
    if_true]
  split
  · next later' heq =>
    obtain rfl := (List.cons.inj (hlater.symm.trans heq)).2
    rw [hplace]
    rfl
  · next hnone => exact absurd hlater (hnone later)

/-! ## Written lists and what is read -/

theorem beginsWith_nil (text : List Char) : BeginsWith text [] := by
  refine ⟨text, rfl, ?_⟩
  intro w hw
  cases hw

theorem beginsWith_singleton_iff {text : List Char} {w : WrittenItem} :
    BeginsWith text [w] ↔ ∃ tail, text = w.text ++ tail ∧ w.EndsBefore tail := by
  unfold BeginsWith
  simp only [List.map_cons, List.map_nil, List.intercalate_singleton, List.getLast?_singleton, Option.mem_some_iff,
    forall_eq']

theorem beginsWith_cons_cons_iff {text : List Char} {w v : WrittenItem} {others : List WrittenItem} :
    BeginsWith text (w :: v :: others) ↔ ∃ later, text = w.text ++ ',' :: later ∧ BeginsWith later (v :: others) := by
  have hjoin (tail : List Char) : [','].intercalate ((w :: v :: others).map WrittenItem.text) ++ tail =
      w.text ++ ',' :: ([','].intercalate ((v :: others).map WrittenItem.text) ++ tail) := by
    simp only [List.map_cons, List.intercalate_cons_cons, List.append_assoc, List.nil_append,
      List.cons_append]
  constructor
  · rintro ⟨tail, rfl, hends⟩
    exact ⟨_, hjoin tail, tail, rfl, hends⟩
  · rintro ⟨later, rfl, tail, rfl, hends⟩
    exact ⟨tail, (hjoin tail).symm, hends⟩

/-- A list with which the text begins is read, and maybe more. -/
theorem placed_prefix_itemsFrom {text : List Char} {items : List WrittenItem} (h : BeginsWith text items)
    (place : Nat) : placed place items <+: itemsFrom place text := by
  induction items generalizing place text with
  | nil => exact List.nil_prefix
  | cons w later ih =>
    cases later with
    | nil =>
      obtain ⟨tail, rfl, hends⟩ := beginsWith_singleton_iff.1 h
      obtain ⟨more, hread⟩ := exists_itemsFrom_eq_cons hends place
      exact ⟨more, hread.symm⟩
    | cons v others =>
      obtain ⟨later, rfl, hlater⟩ := beginsWith_cons_cons_iff.1 h
      rw [itemsFrom_comma, placed, List.prefix_cons_inj]
      exact ih hlater _

/-- The first run of a text, without the dots at its end. -/
def leadingId (text : List Char) : List Char :=
  dropEndWhile (· == '.') ((trimStart text).takeWhile isIdentifierChar)

/-- The first item of a text, if it is good. -/
def WrittenItem.ofText (text : List Char) (h : isIdentifier (leadingId text) = true) : WrittenItem where
  lead := text.takeWhile isBlank
  run := (trimStart text).takeWhile isIdentifierChar
  trail := (afterRun text).takeWhile isBlank
  isBlank_lead _ hc := List.mem_takeWhile_imp hc
  isIdentifierChar_run _ hc := List.mem_takeWhile_imp hc
  isBlank_trail _ hc := List.mem_takeWhile_imp hc
  isIdentifier_id := h

section First

variable {text : List Char} (h : isIdentifier (leadingId text) = true)

theorem text_ofText_append : (WrittenItem.ofText text h).text ++ trimStart (afterRun text) = text := by
  rw [WrittenItem.text_append]
  have htrail : (WrittenItem.ofText text h).trail ++ trimStart (afterRun text) = afterRun text :=
    List.takeWhile_append_dropWhile
  have hrun : (WrittenItem.ofText text h).run ++ afterRun text = trimStart text := List.takeWhile_append_dropWhile
  rw [htrail, hrun]
  exact List.takeWhile_append_dropWhile

theorem endsBefore_ofText : (WrittenItem.ofText text h).EndsBefore (trimStart (afterRun text)) := by
  intro htrail c hc
  have hrest : trimStart (afterRun text) = afterRun text := by
    have hsplit : (WrittenItem.ofText text h).trail ++ trimStart (afterRun text) = afterRun text :=
      List.takeWhile_append_dropWhile
    rw [htrail] at hsplit
    exact hsplit
  rw [hrest] at hc
  unfold afterRun at hc
  have hhead := List.head?_dropWhile_not isIdentifierChar (trimStart text)
  rw [hc] at hhead
  simpa using hhead

end First

/-- What is read is written at the beginning of the text. -/
theorem exists_beginsWith (place : Nat) (text : List Char) :
    ∃ items, BeginsWith text items ∧ placed place items = itemsFrom place text := by
  -- Behind a comma there may be no good item; then the list ends in front of the comma.
  fun_induction itemsFrom place text with
  | case1 place text start run id hid later hcomma _ ih =>
    obtain ⟨items, hbegins, hplaced⟩ := ih
    have htext := text_ofText_append hid
    have hends := endsBefore_ofText hid
    rw [hcomma] at htext hends
    rw [← hplaced]
    cases items with
    | nil => exact ⟨[.ofText text hid], beginsWith_singleton_iff.2 ⟨_, htext.symm, hends⟩, rfl⟩
    | cons v others =>
      refine ⟨.ofText text hid :: v :: others, beginsWith_cons_cons_iff.2 ⟨later, htext.symm, hbegins⟩, ?_⟩
      have hplace :
          place + (WrittenItem.ofText text hid).text.length = start + run.length + blanksBefore (afterRun text) := by
        rw [WrittenItem.length_text, ← Nat.add_assoc, ← Nat.add_assoc]
        rfl
      rw [placed, hplace]
      rfl
  | case2 place text start run id hid hnone =>
    have htext := text_ofText_append hid
    refine ⟨[.ofText text hid], beginsWith_singleton_iff.2 ⟨_, htext.symm, endsBefore_ofText hid⟩, rfl⟩
  | case3 place text => exact ⟨[], beginsWith_nil text, rfl⟩

/-- Reading a list from left to right finds the longest one, and there is only one such list. -/
theorem itemsFrom_eq_iff (place : Nat) (text : List Char) (items : List Item) :
    itemsFrom place text = items ↔ ∃ written, BeginsWithLongest text written ∧ items = placed place written := by
  obtain ⟨read, hbegins, hread⟩ := exists_beginsWith place text
  have hlongest : ∀ others, BeginsWith text others → others.length ≤ read.length := by
    intro others hothers
    have hle := (placed_prefix_itemsFrom hothers place).length_le
    rwa [← hread, length_placed, length_placed] at hle
  constructor
  · rintro rfl
    exact ⟨read, ⟨hbegins, hlongest⟩, hread.symm⟩
  · rintro ⟨written, hwritten, rfl⟩
    have hlength : written.length = read.length :=
      Nat.le_antisymm (hlongest written hwritten.begins) (hwritten.longest read hbegins)
    refine ((placed_prefix_itemsFrom hwritten.begins place).eq_of_length ?_).symm
    rw [← hread, length_placed, length_placed, hlength]

/-! ## Markers -/

/-- A marker between the two texts is a word of its own: no identifier character stands in front of it, and a blank
behind it. -/
def IsWord (before after : List Char) : Prop :=
  (∀ c ∈ before.getLast?, isIdentifierChar c = false) ∧ ∃ c ∈ after.head?, isBlank c = true

/-- What an occurrence of a marker introduces: the longest list behind it if it is a word of its own, nothing
otherwise. -/
def Introduces (marker : List Char) (line : Line) (place : Nat) (items : List Item) : Prop :=
  ∃ before after, line = before ++ marker ++ after ∧ place = before.length ∧
    (IsWord before after ∧
        (∃ written, BeginsWithLongest after written ∧ items = placed (place + marker.length) written) ∨
      ¬ IsWord before after ∧ items = [])

/-- What a line claims: what the leftmost occurrences of the marker that do not overlap introduce, one after the
other. -/
def Claims (marker : List Char) (line : Line) (items : List Item) : Prop :=
  ∃ places, AreLeftmost marker 0 line places ∧
    ∃ introduced : Nat → List Item,
      (∀ p ∈ places, Introduces marker line p (introduced p)) ∧ items = places.flatMap introduced

/-- The items that are read behind an occurrence of a marker. -/
def itemsAt (marker : List Char) (line : Line) (place : Nat) : List Item :=
  if endsWord line place then [] else itemsAfter (place + marker.length) (line.drop (place + marker.length))

theorem itemsOfLine_eq (marker : List Char) (line : Line) :
    itemsOfLine marker line = (occurrences marker 0 line).flatMap (itemsAt marker line) := rfl

/-- A blank in front of a list may as well belong to its first item. -/
theorem itemsFrom_cons_of_isBlank {c : Char} (hc : isBlank c = true) (place : Nat) (rest : List Char) :
    itemsFrom place (c :: rest) = itemsFrom (place + 1) rest := by
  have hstart : trimStart (c :: rest) = trimStart rest := List.dropWhile_cons_of_pos hc
  have hafter : afterRun (c :: rest) = afterRun rest := by
    unfold afterRun
    rw [hstart]
  have hplace : place + blanksBefore (c :: rest) = place + 1 + blanksBefore rest := by
    unfold blanksBefore
    rw [List.takeWhile_cons_of_pos hc, List.length_cons]
    omega
  rw [itemsFrom, itemsFrom]
  simp only [hstart, hplace]
  rw [hafter]

/-- Behind a word of its own a list is read. -/
theorem itemsAt_of_isWord {marker before after : List Char} (h : IsWord before after) :
    itemsAt marker (before ++ marker ++ after) before.length = itemsFrom (before.length + marker.length) after := by
  obtain ⟨hbefore, c, hc, hblank⟩ := h
  have hends : endsWord (before ++ marker ++ after) before.length = false := by
    unfold endsWord
    rw [List.append_assoc, List.take_left]
    cases hlast : before.getLast? with
    | none => rfl
    | some d => exact hbefore d hlast
  obtain ⟨rest, rfl⟩ := List.head?_eq_some_iff.1 hc
  unfold itemsAt
  rw [hends, ← List.length_append, List.drop_left, itemsFrom_cons_of_isBlank hblank]
  simp only [itemsAfter, hblank, if_true, Bool.false_eq_true, if_false]

theorem itemsAt_of_not_isWord {marker before after : List Char} (h : ¬ IsWord before after) :
    itemsAt marker (before ++ marker ++ after) before.length = [] := by
  unfold itemsAt
  split
  · rfl
  · next hends =>
    unfold endsWord at hends
    rw [List.append_assoc, List.take_left] at hends
    rw [← List.length_append, List.drop_left]
    cases after with
    | nil => rfl
    | cons c rest =>
      refine if_neg fun hblank => h ⟨?_, c, rfl, hblank⟩
      intro d hd
      rw [hd] at hends
      simpa using hends

theorem itemsAt_eq_iff {marker : List Char} {line : Line} {place : Nat} (h : Stands 0 line place marker)
    (items : List Item) : itemsAt marker line place = items ↔ Introduces marker line place items := by
  constructor
  · rintro rfl
    obtain ⟨before, after, rfl, hplace⟩ := h
    rw [Nat.zero_add] at hplace
    subst hplace
    refine ⟨before, after, rfl, rfl, ?_⟩
    by_cases hword : IsWord before after
    · exact .inl ⟨hword, (itemsFrom_eq_iff _ after _).1 (itemsAt_of_isWord hword).symm⟩
    · exact .inr ⟨hword, itemsAt_of_not_isWord hword⟩
  · rintro ⟨before, after, rfl, rfl, ⟨hword, hlist⟩ | ⟨hword, rfl⟩⟩
    · rw [itemsAt_of_isWord hword]
      exact (itemsFrom_eq_iff _ after items).2 hlist
    · exact itemsAt_of_not_isWord hword

theorem itemsOfLine_eq_iff {marker : List Char} (hmarker : marker ≠ []) (line : Line) (items : List Item) :
    itemsOfLine marker line = items ↔ Claims marker line items := by
  rw [itemsOfLine_eq]
  constructor
  · rintro rfl
    have hplaces := areLeftmost_occurrences hmarker 0 line
    exact ⟨_, hplaces, itemsAt marker line, fun p hp => (itemsAt_eq_iff (hplaces.stands p hp) _).1 rfl, rfl⟩
  · rintro ⟨places, hplaces, introduced, hintroduced, rfl⟩
    rw [(occurrences_eq_iff hmarker 0 line places).2 hplaces]
    exact List.flatMap_congr fun p hp => (itemsAt_eq_iff (hplaces.stands p hp) _).2 (hintroduced p hp)

/-! ## Scans -/

/-- The reference for an item of a line. -/
def Item.reference (uri : String) (l : NumberedLine) (item : Item) : Reference :=
  ⟨String.ofList item.id, uri, ⟨l.position item.place, l.position (item.place + item.id.length)⟩⟩

/-- What a plain file contributes by the grammar: nothing but the claims of its lines, in order. -/
structure IsScanOf (uri text : String) (marker : List Char) (e : Extraction) : Prop where
  subject : e.subject = none
  definitions : e.definitions = []
  findings : e.findings = []
  references : ∃ claimed : Line → List Item, (∀ line ∈ lines text, Claims marker line (claimed line)) ∧
    e.references = (numbered (lines text)).flatMap fun l => (claimed l.text).map (Item.reference uri l)

/-- A scan gives what the grammar says, and nothing else. -/
theorem scan_eq_iff_isScanOf {marker : String} (hmarker : marker ≠ "") (uri text : String) (e : Extraction) :
    scan uri text marker = e ↔ IsScanOf uri text marker.toList e := by
  have hcharacters : marker.toList ≠ [] := by
    intro hnil
    exact hmarker (String.toList_eq_nil_iff.1 hnil)
  have hclaims (line : Line) (items : List Item) := itemsOfLine_eq_iff hcharacters line items
  constructor
  · rintro rfl
    exact ⟨rfl, rfl, rfl, itemsOfLine marker.toList, fun line _ => (hclaims line _).1 rfl, rfl⟩
  · rintro ⟨hsubject, hdefinitions, hfindings, claimed, hclaimed, hreferences⟩
    have hlines : (scan uri text marker).references = e.references := by
      rw [hreferences]
      refine List.flatMap_congr fun l hl => ?_
      have hline : l.text ∈ lines text := List.mem_of_getElem? ((mem_numbered_iff _ l).1 hl)
      rw [← (hclaims l.text _).2 (hclaimed l.text hline)]
      rfl
    obtain ⟨subject, definitions, references, findings⟩ := e
    subst hsubject hdefinitions hfindings hlines
    rfl

/-- Two items behind the standard marker are claimed, the second one without its dots.  The third one is not good, and
the marker on the next line is the end of a longer word. -/
theorem isScanOf_standard :
    standard ≠ "" ∧
      IsScanOf "a.rs" "// $$Implements Sys.A , B.., ?\nx$$Implements C" standard.toList
        { references := [⟨"Sys.A", "a.rs", .onLine 0 16 21⟩, ⟨"B", "a.rs", .onLine 0 24 25⟩] } :=
  ⟨by decide, (scan_eq_iff_isScanOf (by decide) "a.rs" _ _).1 (by cbv)⟩

end Traceability.Marker
