import Traceability.Proofs.Document.Targets
import Traceability.Proofs.Identifier
import Traceability.Proofs.Word.Phrases
set_option autoImplicit false

/-!
# Identifiers under a cursor

Wherever a document names a requirement by its identifier, as the id of a requirement or as the target of a link, a
cursor finds that identifier.  The reader of the document starts behind bullets and blanks and minds backslashes; the
cursor does neither.  It sees the same spans all the same: what stands in front of the text of a block opens no phrase,
and backslashes are found only behind the id of a requirement, or not at all.
-/

namespace Traceability

open Text

/-! ## Identifiers -/

theorem trim_of_isIdentifier {s : List Char} (h : isIdentifier s = true) : trim s = s :=
  trim_eq_self (isBlank_eq_false_of_isIdentifier h)

namespace Document

/-! ## Cursors on spans -/

/-- A position between the markers of a span denotes its text, if a cursor there sees the span. -/
theorem wordAtPosition_of_find? {text : String} {s : LocatedSpan} (hline : s.line ∈ numbered (lines text))
    (hwritten : s.IsWritten) {p : Position} (hp : s.phrase.range.contains p = true)
    (hfind : ∀ byte, utf8Length (s.line.text.take s.span.innerStart) ≤ byte →
      byte ≤ utf8Length (s.line.text.take s.span.innerStop) →
        (phrasesOf s.line.text).find? (touches s.line.text byte) = some s.span)
    (hinked : trim s.span.text ≠ []) : wordAtPosition text p = some (trim s.span.text) := by
  have hstop : s.span.stop ≤ s.line.text.length := hwritten.stop_isOnLine
  have hstart : s.span.innerStart ≤ s.span.stop := by
    unfold Span.stop Span.innerStop
    omega
  exact wordAtPosition_of_touches ((mem_numbered_iff _ _).1 hline) (hstart.trans hstop) hp hfind hinked

/-! ## Ids of requirements -/

theorem isIdentifier_of_opensRequirement {first : NumberedLine} {s : LocatedSpan}
    (h : opensRequirement first s = true) : isIdentifier s.span.text = true := (Bool.and_eq_true_iff.1 h).2

/-- The id of a requirement is the first phrase of its line. -/
theorem exists_phrasesOf_eq_cons {first : NumberedLine} {s : LocatedSpan}
    (hs : s ∈ (spansOfLine ⟨first, first.inkStart⟩).value) (h : opensRequirement first s = true) :
    ∃ later, phrasesOf s.line.text = s.span :: later := by
  obtain ⟨hline, ⟨before, after, htext, hstart⟩, _⟩ := of_mem_spansOfLine hs
  have hid := isIdentifier_of_opensRequirement h
  unfold opensRequirement at h
  simp only [Bool.and_eq_true, decide_eq_true_eq] at h
  have hink := h.1.2
  have hbefore : before = first.text.takeWhile isBlank := by
    have hlength : before.length = (first.text.takeWhile isBlank).length := by
      rw [← Nat.zero_add before.length, ← hstart, hink]
      rfl
    have hprefix : before <+: first.text := ⟨s.span.source ++ after, by rw [← List.append_assoc, ← htext, hline]⟩
    exact (List.prefix_of_prefix_length_le hprefix (List.takeWhile_prefix _) hlength.le).eq_of_length hlength
  have hfree : ∀ c ∈ before, c ≠ '*' := by
    rintro c hc rfl
    rw [hbefore] at hc
    exact absurd (List.mem_takeWhile_imp hc) (by decide)
  refine ⟨phrasesFrom s.span.stop after, ?_⟩
  unfold phrasesOf
  rw [htext, List.append_assoc, phrasesFrom_append hfree, ← hstart]
  exact phrasesFrom_source_append (ne_asterisk_of_isIdentifier hid) (startsInked_of_isIdentifier hid) _ _

/-- The id of a requirement is a span that opens it. -/
theorem exists_opensRequirement_of_mem_blocks {text : String} {range : Range} {id : Phrase} {clause : Option Phrase}
    (h : .requirement range id clause ∈ (Document.ofText text).blocks) :
    ∃ first ∈ numbered (lines text), ∃ s ∈ (spansOfLine ⟨first, first.inkStart⟩).value,
      opensRequirement first s = true ∧ id = s.phrase := by
  obtain ⟨read, hread, hvalue⟩ := List.mem_map.1 h
  rcases exists_chunk_of_mem_readLines hread with ⟨l, _, _, rfl⟩ | ⟨c, hlines, _, rfl⟩
  · cases hvalue
  · cases c with
    | heading level line => cases hvalue
    | list first rest => cases hvalue
    | paragraph first rest =>
      have hparagraph : (readParagraph first rest).value = .requirement range id clause := hvalue
      have hconsecutive : IsConsecutive (first :: rest) := (isConsecutive_numbered _).part hlines
      rcases readParagraph_spans_cases first rest with hsentence | ⟨s, others, hspans, hopens, hrequirement⟩
      · rw [hsentence] at hparagraph
        cases hparagraph
      · have hid : id = s.phrase := by
          rcases hrequirement with hnone | ⟨_, _, _, hsome, _⟩
          · exact (Block.requirement.inj (hparagraph.symm.trans hnone)).2.1
          · exact (Block.requirement.inj (hparagraph.symm.trans hsome)).2.1
        have hmem : s ∈ (spansOfLines ((first :: rest).map fun l => ⟨l, l.inkStart⟩)).value := by
          rw [hspans]
          exact List.mem_cons_self
        obtain ⟨c, hc, hs⟩ := List.mem_flatMap.1 hmem
        obtain ⟨l, hl, rfl⟩ := List.mem_map.1 hc
        obtain ⟨hline, _⟩ := of_mem_spansOfLine hs
        -- Of all lines of the paragraph only the first one has its number.
        have hfirst : l = first := by
          have hnumber : s.line.number = first.number := by
            unfold opensRequirement at hopens
            simp only [Bool.and_eq_true, decide_eq_true_eq] at hopens
            exact hopens.1.1.1
          rw [hline] at hnumber
          rcases List.mem_cons.1 hl with rfl | hl
          · rfl
          · exact absurd hnumber (hconsecutive.number_lt_of_mem hl).ne'
        rw [hfirst] at hs
        exact ⟨first, hlines.subset List.mem_cons_self, s, hs, hopens, hid⟩

/-! ## Targets of links -/

/-- A target that is an identifier is what the text of its span says, blanks at both ends apart. -/
theorem exists_span_of_mem_phrases {start : Cursor} {ls : List NumberedLine} {spans : List LocatedSpan} {target : Phrase}
    (h : target ∈ (readTargets start ls spans).value.phrases) (hid : isIdentifier target.text = true) :
    ∃ s ∈ spans, target.range = s.phrase.range ∧ trim s.span.text = target.text := by
  match spans with
  | [] => cases h
  | [s] =>
    refine ⟨s, List.mem_singleton_self s, ?_⟩
    simp only [readTargets] at h
    split at h
    · obtain rfl := List.mem_singleton.1 h
      exact ⟨rfl, trim_of_isIdentifier hid⟩
    · obtain rfl := List.mem_singleton.1 h
      exact ⟨rfl, trim_eq_collapse (isBlank_eq_false_of_isIdentifier hid)⟩
  | first :: second :: others =>
    obtain ⟨s, hs, rfl⟩ := List.mem_map.1 h
    exact ⟨s, (List.mem_filter.1 hs).1, rfl, trim_of_isIdentifier hid⟩

theorem isBullet_of_mem_ofLines {ls : List NumberedLine} {item : ItemLines} (h : item ∈ ItemLines.ofLines ls) :
    item.first.isBullet = true := by
  induction ls with
  | nil => cases h
  | cons l rest ih =>
    cases hl : l.isBullet with
    | true =>
      rw [ItemLines.ofLines_cons_of_isBullet hl] at h
      rcases List.mem_cons.1 h with rfl | h
      · exact hl
      · exact ih h
    | false =>
      rw [ItemLines.ofLines_cons_of_not_isBullet hl] at h
      exact ih h

/-- A bullet is followed by a blank, and the content of its line starts behind that blank or the ones after it. -/
theorem exists_bullet_eq {line : Line} {content : Nat} (h : classify line = .bullet content) :
    ∃ c rest more, trimStart line = c :: rest ∧ (c = '*' ∨ c = '-') ∧ startsInked rest = false ∧
      content = blanksBefore line + 1 + more ∧ more ≤ blanksBefore rest := by
  unfold classify at h
  split at h
  · cases h
  · next c rest htrim =>
    simp only at h
    split at h
    · cases h
    · split at h
      · next hbullet =>
        simp only [Bool.and_eq_true, Bool.or_eq_true, beq_iff_eq, Bool.not_eq_true', List.isEmpty_eq_false_iff] at hbullet
        obtain ⟨⟨hc, _⟩, hblank⟩ := hbullet
        have hinked : blanksBefore line < (trimEnd line).length := by
          refine blanksBefore_lt_length_trimEnd (Bool.eq_false_iff.2 fun hall => ?_)
          rw [(trimStart_eq_nil_iff line).2 hall] at htrim
          cases htrim
        have hcontent := LineKind.bullet.inj h
        refine ⟨c, rest, content - (blanksBefore line + 1), htrim, hc, hblank, ?_, ?_⟩
        · omega
        · omega
      · cases h

/-- Nothing in front of the text of a line opens a phrase. -/
theorem phrasesOf_eq_phrasesFrom_inkStart (l : NumberedLine) :
    phrasesOf l.text = phrasesFrom l.inkStart (l.text.drop l.inkStart) := by
  have hpassed := phrasesFrom_drop_blanks 0 (le_refl l.inkStart)
  rw [Nat.zero_add] at hpassed
  exact hpassed

/-- A bullet opens no phrase. -/
theorem phrasesOf_eq_phrasesFrom_contentStart {l : NumberedLine} (h : l.isBullet = true) :
    phrasesOf l.text = phrasesFrom l.contentStart (l.text.drop l.contentStart) := by
  obtain ⟨content, hkind⟩ : ∃ content, l.kind = .bullet content := by
    by_contra hnone
    rw [NumberedLine.isBullet_eq_false_iff.2 fun content hkind => hnone ⟨content, hkind⟩] at h
    cases h
  obtain ⟨c, rest, more, htrim, hc, hblank, hcontent, hmore⟩ := exists_bullet_eq hkind
  have hstart : l.contentStart = l.inkStart + 1 + more := by
    unfold NumberedLine.contentStart
    rw [hkind]
    exact hcontent
  have hdrop : l.text.drop l.inkStart = c :: rest := by
    rw [← htrim, ← drop_blanksBefore]
    rfl
  have hbullet : phrasesFrom l.inkStart (c :: rest) = phrasesFrom (l.inkStart + 1) rest := by
    rcases hc with rfl | rfl
    · have hopening : Emphasis.opening rest = (.italic, rest) := by
        unfold Emphasis.opening
        split
        · cases hblank
        · rfl
      rw [phrasesFrom_asterisk_of_blank, hopening]
      · rfl
      · rw [hopening]
        exact hblank
    · exact phrasesFrom_cons_of_ne (by decide) rest
  rw [phrasesOf_eq_phrasesFrom_inkStart, hdrop, hbullet, phrasesFrom_drop_blanks _ hmore, hstart, ← List.drop_drop,
    ← List.drop_drop, hdrop]
  rfl

/-- A line of an item is read from a place on in front of which no phrase is opened. -/
theorem phrasesOf_eq_of_mem_readingStarts {ls : List NumberedLine} {item : ItemLines} (h : item ∈ ItemLines.ofLines ls)
    {c : Cursor} (hc : c ∈ readingStarts item.first item.first.contentStart item.rest) :
    phrasesOf c.line.text = phrasesFrom c.place (c.line.text.drop c.place) := by
  rcases List.mem_cons.1 hc with rfl | hc
  · exact phrasesOf_eq_phrasesFrom_contentStart (isBullet_of_mem_ofLines h)
  · obtain ⟨l, _, rfl⟩ := List.mem_map.1 hc
    exact phrasesOf_eq_phrasesFrom_inkStart l

/-- On a line without backslashes a cursor on the text of a span sees the span. -/
theorem find?_touches_of_mem_spansOfLine {c : Cursor}
    (hphrases : phrasesOf c.line.text = phrasesFrom c.place (c.line.text.drop c.place)) {s : LocatedSpan}
    (hs : s ∈ (spansOfLine c).value) (hfree : '\\' ∉ s.line.text) {byte : Nat}
    (hstart : utf8Length (s.line.text.take s.span.innerStart) ≤ byte)
    (hstop : byte ≤ utf8Length (s.line.text.take s.span.innerStop)) :
    (phrasesOf s.line.text).find? (touches s.line.text byte) = some s.span := by
  obtain ⟨hline, hwritten, _⟩ := of_mem_spansOfLine hs
  have hwithin : s.span.start < s.line.text.length := by
    have hle : s.span.stop ≤ s.line.text.length := hwritten.stop_isOnLine
    have hsource := s.span.length_source
    have hpos := List.length_pos_iff.2 (source_ne_nil s.span)
    omega
  have hspans : phrasesOf s.line.text = (spansOf c.line.text c.place).spans := by
    have hrest : ∀ d ∈ c.line.text.drop c.place, d ≠ '\\' := by
      rintro d hd rfl
      rw [hline] at hfree
      exact hfree (List.mem_of_mem_drop hd)
    rw [hline, hphrases, phrasesFrom_eq_spansFrom hrest]
    rfl
  obtain ⟨span, hspan, rfl⟩ := List.mem_map.1 hs
  rw [hspans]
  exact find?_touches (pairwise_spansFrom _ _) hspan hwithin hstart hstop

/-- A target that is an identifier stands on a line, of an item, where a cursor sees the spans that are read from it. -/
theorem exists_span_of_mem_targets {text : String} {range : Range} {targets : Targets}
    (h : .link range targets ∈ (Document.ofText text).items) {target : Phrase} (htarget : target ∈ targets.phrases)
    (hid : isIdentifier target.text = true) :
    ∃ c : Cursor, c.line ∈ numbered (lines text) ∧
      phrasesOf c.line.text = phrasesFrom c.place (c.line.text.drop c.place) ∧
      ∃ s ∈ (spansOfLine c).value, target.range = s.phrase.range ∧ trim s.span.text = target.text := by
  rw [items_ofText] at h
  obtain ⟨item, hitem, hvalue⟩ := List.mem_map.1 h
  obtain ⟨first, rest, hpart, _, hlist⟩ := exists_readList_of_mem_ofLines hitem
  have hlines := (ItemLines.lines_infix_of_mem_ofList hlist).trans hpart
  rcases readItem_cases item with hread | ⟨_, hread⟩
  · rw [hread] at hvalue
    cases hvalue
  · rw [hread] at hvalue
    obtain ⟨rfl, rfl⟩ := ListItem.link.inj hvalue
    obtain ⟨s, hs, hrange, htext⟩ := exists_span_of_mem_phrases htarget hid
    obtain ⟨c, hc, hs⟩ := List.mem_flatMap.1 (List.mem_filter.1 hs).1
    have hline : c.line ∈ item.lines := by
      rcases List.mem_cons.1 hc with rfl | hc
      · exact List.mem_cons_self
      · obtain ⟨l, hl, rfl⟩ := List.mem_map.1 hc
        exact List.mem_cons_of_mem _ hl
    exact ⟨c, hlines.subset hline, phrasesOf_eq_of_mem_readingStarts hitem hc, s, hs, hrange, htext⟩

/-! ## Cursors on identifiers -/

/-- A cursor on the id of a requirement denotes that id, and so does a cursor right behind its last character.  The same
holds for each target of a link that is an identifier, if its line has no backslash. -/
theorem wordAtPosition_of_contains {text : String} (p : Position) :
    (∀ range id clause, .requirement range id clause ∈ (Document.ofText text).blocks → id.range.contains p = true →
        wordAtPosition text p = some id.text) ∧
      ∀ range items itemRange targets, .list range items ∈ (Document.ofText text).blocks →
        .link itemRange targets ∈ items → ∀ target ∈ targets.phrases, isIdentifier target.text = true →
          (∀ line ∈ (lines text)[target.range.start.line]?, '\\' ∉ line) → target.range.contains p = true →
            wordAtPosition text p = some target.text := by
  constructor
  · intro range id clause hblock hp
    obtain ⟨first, hfirst, s, hs, hopens, rfl⟩ := exists_opensRequirement_of_mem_blocks hblock
    obtain ⟨hline, hwritten, _⟩ := of_mem_spansOfLine hs
    obtain ⟨later, hphrases⟩ := exists_phrasesOf_eq_cons hs hopens
    have htext : trim s.span.text = s.phrase.text := trim_of_isIdentifier (isIdentifier_of_opensRequirement hopens)
    have hid := isIdentifier_of_opensRequirement hopens
    rw [← htext]
    refine wordAtPosition_of_find? (hline ▸ hfirst) hwritten hp (fun byte hstart hstop => ?_) ?_
    · rw [hphrases, List.find?_cons_of_pos (touches_of_le hstart hstop)]
    · exact htext ▸ ne_nil_of_isIdentifier hid
  · intro range items itemRange targets hblock hitem target htarget hid hfree hp
    have hitems : .link itemRange targets ∈ (Document.ofText text).items := List.mem_flatMap.2 ⟨_, hblock, hitem⟩
    obtain ⟨c, hc, hphrases, s, hs, hrange, htext⟩ := exists_span_of_mem_targets hitems htarget hid
    obtain ⟨hline, hwritten, _⟩ := of_mem_spansOfLine hs
    have hnumbered : s.line ∈ numbered (lines text) := hline ▸ hc
    rw [hrange] at hfree hp
    have hnoBackslash : '\\' ∉ s.line.text := hfree _ ((mem_numbered_iff _ _).1 hnumbered)
    rw [← htext] at hid ⊢
    exact wordAtPosition_of_find? hnumbered hwritten hp
      (fun byte => find?_touches_of_mem_spansOfLine hphrases hs hnoBackslash) (ne_nil_of_isIdentifier hid)

theorem wordAtPosition_at_ends_of_identifiers :
    let text := "# *x*\n\n**A***b* **shall** c\\*.\n\n* Implements **B.c**,**D** *e*\n"
    let clause : Phrase := ⟨"*b* ".toList, Range.onLine 2 5 9⟩
    let item : ListItem := .link (Range.onLine 4 2 30)
      (.identifiers [⟨"B.c".toList, Range.onLine 4 15 18⟩, ⟨"D".toList, Range.onLine 4 23 24⟩])
    .requirement (Range.onLine 2 0 23) ⟨"A".toList, Range.onLine 2 2 3⟩ (some clause) ∈ (Document.ofText text).blocks ∧
      .list (Range.onLine 4 0 30) [item] ∈ (Document.ofText text).blocks ∧
      wordAtPosition text ⟨2, 3⟩ = some "A".toList ∧ wordAtPosition text ⟨4, 23⟩ = some "D".toList := by
  intro text clause item
  have hid : .requirement (Range.onLine 2 0 23) ⟨"A".toList, Range.onLine 2 2 3⟩ (some clause) ∈
      (Document.ofText text).blocks := by decide +kernel
  have hlist : .list (Range.onLine 4 0 30) [item] ∈ (Document.ofText text).blocks := by decide +kernel
  refine ⟨hid, hlist, ?_, ?_⟩
  · exact (wordAtPosition_of_contains ⟨2, 3⟩).1 _ _ _ hid (by decide)
  · refine (wordAtPosition_of_contains ⟨4, 23⟩).2 _ _ _ _ hlist (List.mem_singleton_self item)
      ⟨"D".toList, Range.onLine 4 23 24⟩ (List.mem_cons_of_mem _ (List.mem_singleton_self _)) (by decide +kernel) ?_
      (by decide)
    intro line hline
    obtain rfl : "* Implements **B.c**,**D** *e*".toList = line := by
      have htext : (lines text)[4]? = some "* Implements **B.c**,**D** *e*".toList := by decide +kernel
      exact Option.some.inj (htext.symm.trans hline)
    decide

end Document

end Traceability
