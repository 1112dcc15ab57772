import Traceability.Proofs.Document.Partition
import Traceability.Proofs.Document.Spans
import Traceability.Proofs.Text.Fields
import Traceability.Proofs.Text.Ranges
set_option autoImplicit false

/-!
# Ranges of blocks and faults

All that a document reports stands in its text: no range ends before it starts or leaves the lines and columns there
are.  What belongs to a block stands inside of it: phrases in their title or heading, the id and the clause of a
requirement in the requirement, one behind the other, and targets in their item, which is in its list.

Everything comes down to places on lines.  A line that is not blank has its content between its first and its last
inked character; spans stand in the content, and their markers are inked; and a block reaches over consecutive lines.
-/

namespace Traceability.Document

open Text

/-! ## The inked part of a line -/

theorem drop_blanksBefore (s : List Char) : s.drop (blanksBefore s) = trimStart s := by
  have hdrop : (s.takeWhile isBlank ++ s.dropWhile isBlank).drop (blanksBefore s) = trimStart s := List.drop_left
  rwa [List.takeWhile_append_dropWhile] at hdrop

theorem exists_inked_of_not_blank {line : Line} (h : isBlankLine line = false) :
    ∃ blanks c rest, line = blanks ++ c :: rest ∧ blanks.length = blanksBefore line ∧ isBlank c = false := by
  have hne : line.dropWhile isBlank ≠ [] := by
    have hinked := mt (trimStart_eq_nil_iff line).1 (Bool.eq_false_iff.1 h)
    exact hinked
  refine ⟨line.takeWhile isBlank, (line.dropWhile isBlank).head hne, (line.dropWhile isBlank).tail, ?_, rfl, ?_⟩
  · rw [List.cons_head_tail, List.takeWhile_append_dropWhile]
  · simpa using List.head_dropWhile_not isBlank hne

/-- An inked character is not cut off at the end of its line. -/
theorem length_lt_length_trimEnd (before after : Line) {c : Char} (hc : isBlank c = false) :
    before.length < (trimEnd (before ++ c :: after)).length := by
  unfold trimEnd
  rw [dropEndWhile_append_cons hc, List.length_append, List.length_cons]
  omega

theorem blanksBefore_lt_length_trimEnd {line : Line} (h : isBlankLine line = false) :
    blanksBefore line < (trimEnd line).length := by
  obtain ⟨blanks, c, rest, rfl, hlength, hc⟩ := exists_inked_of_not_blank h
  rw [← hlength]
  exact length_lt_length_trimEnd blanks rest hc

/-- The content behind a marker starts no earlier than the marker, and no later than the inked part of the line ends. -/
theorem exists_content_eq {line : Line} {content : Nat}
    (h : classify line = .bullet content ∨ ∃ level, classify line = .heading level content) :
    ∃ width, content = min (blanksBefore line + width) (trimEnd line).length := by
  rcases h with h | ⟨level, h⟩
  · unfold classify at h
    split at h
    · cases h
    · simp only at h
      split at h
      · cases h
      · split at h
        · exact ⟨_, (LineKind.bullet.inj h).symm.trans (by rw [Nat.add_assoc])⟩
        · cases h
  · unfold classify at h
    split at h
    · cases h
    · simp only at h
      split at h
      · exact ⟨_, (LineKind.heading.inj h).2.symm.trans (by rw [Nat.add_assoc])⟩
      · split at h
        · cases h
        · cases h

namespace NumberedLine

variable {l : NumberedLine}

theorem inkStart_le_inkStop (h : isBlankLine l.text = false) : l.inkStart ≤ l.inkStop :=
  (blanksBefore_lt_length_trimEnd h).le

theorem contentStart_bounds (h : isBlankLine l.text = false) :
    l.inkStart ≤ l.contentStart ∧ l.contentStart ≤ l.inkStop := by
  have hinked := inkStart_le_inkStop h
  have hcontent : l.contentStart = l.inkStart ∨
      ∃ width, l.contentStart = min (l.inkStart + width) l.inkStop := by
    unfold contentStart
    cases hkind : l.kind with
    | blank => exact .inl rfl
    | heading level content => exact .inr (exists_content_eq (.inr ⟨level, hkind⟩))
    | bullet content => exact .inr (exists_content_eq (.inl hkind))
    | text indented => exact .inl rfl
  rcases hcontent with hcontent | ⟨width, hcontent⟩
  · omega
  · omega

/-! ## Positions on lines -/

theorem position_le_position (l : NumberedLine) {i j : Nat} (h : i ≤ j) : l.position i ≤ l.position j :=
  .inr ⟨rfl, column_le_column l.text h⟩

theorem position_le_of_number_lt {l m : NumberedLine} (h : l.number < m.number) (i j : Nat) :
    l.position i ≤ m.position j := .inl h

theorem isIn_position {ls : List Line} (h : l ∈ numbered ls) (place : Nat) : (l.position place).IsIn ls :=
  ⟨l.text, (mem_numbered_iff ls l).1 h, column_le_utf16Length l.text place⟩

end NumberedLine

theorem isIn_rangeBetween {ls : List Line} {a b : Cursor} (ha : a.line ∈ numbered ls) (hb : b.line ∈ numbered ls)
    (hle : a.position ≤ b.position) : (rangeBetween a b).IsIn ls :=
  ⟨hle, NumberedLine.isIn_position ha a.place, NumberedLine.isIn_position hb b.place⟩

namespace IsConsecutive

variable {first : NumberedLine} {rest : List NumberedLine}

theorem number_lt_of_mem (h : IsConsecutive (first :: rest)) {l : NumberedLine} (hl : l ∈ rest) :
    first.number < l.number := by
  have hpairwise : ((first :: rest).map NumberedLine.number).Pairwise (· < ·) := by
    rw [h.map_number]
    exact List.pairwise_lt_range'
  rw [List.pairwise_map] at hpairwise
  exact (List.pairwise_cons.1 hpairwise).1 l hl

theorem inkEnd_cons (first second : NumberedLine) (rest : List NumberedLine) :
    inkEnd first (second :: rest) = inkEnd second rest := by
  unfold inkEnd
  rw [List.getLast?_cons, Option.getD_some]

theorem inkEnd_line_mem (first : NumberedLine) (rest : List NumberedLine) :
    (inkEnd first rest).line ∈ first :: rest := by
  induction rest generalizing first with
  | nil => exact List.mem_singleton_self first
  | cons second others ih =>
    rw [inkEnd_cons]
    exact List.mem_cons_of_mem first (ih second)

/-- All inked places of some consecutive lines stand in front of the end of the last one. -/
theorem position_le_inkEnd (h : IsConsecutive (first :: rest)) {l : NumberedLine} (hl : l ∈ first :: rest)
    {place : Nat} (hplace : place ≤ l.inkStop) : l.position place ≤ (inkEnd first rest).position := by
  induction rest generalizing first with
  | nil =>
    obtain rfl := List.mem_singleton.1 hl
    exact l.position_le_position hplace
  | cons second others ih =>
    rw [inkEnd_cons]
    rcases List.mem_cons.1 hl with rfl | hl
    · exact NumberedLine.position_le_of_number_lt (h.number_lt_of_mem (inkEnd_line_mem second others)) _ _
    · exact ih (List.isChain_cons_cons.1 h).2 hl

end IsConsecutive

/-! ## Spans of several lines -/

/-- The span stands in its line as it is written. -/
def LocatedSpan.IsWritten (s : LocatedSpan) : Prop := Stands 0 s.line.text s.span.start s.span.source

theorem exists_marker_eq_concat (kind : Emphasis) : ∃ front, kind.marker = front ++ ['*'] := by
  cases kind with
  | italic => exact ⟨[], rfl⟩
  | bold => exact ⟨['*'], rfl⟩

/-- A closing marker is inked. -/
theorem LocatedSpan.IsWritten.stop_le_inkStop {s : LocatedSpan} (h : s.IsWritten) :
    s.span.stop ≤ s.line.inkStop := by
  obtain ⟨before, after, htext, hstart⟩ := h
  obtain ⟨front, hmarker⟩ := exists_marker_eq_concat s.span.kind
  have hsource : s.span.source = s.span.kind.marker ++ s.span.text ++ front ++ ['*'] := by
    unfold Span.source
    rw [hmarker]
    simp only [List.append_assoc]
  have hline : before ++ (s.span.kind.marker ++ s.span.text ++ front) ++ '*' :: after = s.line.text := by
    rw [htext, hsource]
    simp only [List.append_assoc, List.singleton_append]
  have hasterisk : isBlank '*' = false := by decide
  have hinked := length_lt_length_trimEnd (before ++ (s.span.kind.marker ++ s.span.text ++ front)) after hasterisk
  have hstop := s.span.length_source
  rw [hline, List.length_append] at hinked
  rw [hsource, List.length_append, List.length_singleton] at hstop
  unfold NumberedLine.inkStop
  omega

namespace LocatedSpan

/-! The phrase of a span stands between its markers. -/

theorem start_le_phrase (s : LocatedSpan) : s.start.position ≤ s.phrase.range.start :=
  s.line.position_le_position (Nat.le_add_right _ _)

theorem phrase_start_le_stop (s : LocatedSpan) : s.phrase.range.start ≤ s.phrase.range.stop :=
  s.line.position_le_position (Nat.le_add_right _ _)

theorem phrase_le_stop (s : LocatedSpan) : s.phrase.range.stop ≤ s.stop.position :=
  s.line.position_le_position (Nat.le_add_right _ _)

theorem start_le_stop (s : LocatedSpan) : s.start.position ≤ s.stop.position :=
  (s.start_le_phrase.trans s.phrase_start_le_stop).trans s.phrase_le_stop

end LocatedSpan

theorem stands_drop {line : Line} {place start : Nat} {part : List Char} (hpart : part ≠ [])
    (h : Stands place (line.drop place) start part) : Stands 0 line start part := by
  have hlength : (line.take place).length = place := by
    obtain ⟨before, after, htext, _⟩ := h
    have hdrop := congrArg List.length htext
    have hpos := List.length_pos_iff.2 hpart
    simp only [List.length_drop, List.length_append] at hdrop
    rw [List.length_take]
    omega
  rw [← List.take_append_drop place line]
  apply Stands.append_left
  rw [hlength, Nat.zero_add]
  exact h

theorem source_ne_nil (s : Span) : s.source ≠ [] := by
  obtain ⟨front, hmarker⟩ := exists_marker_eq_concat s.kind
  unfold Span.source
  simp [hmarker]

theorem of_mem_spansOfLine {c : Cursor} {s : LocatedSpan} (h : s ∈ (spansOfLine c).value) :
    s.line = c.line ∧ s.IsWritten ∧ c.place ≤ s.span.start := by
  unfold spansOfLine at h
  obtain ⟨span, hspan, rfl⟩ := List.mem_map.1 h
  have hstands := stands_of_mem_spansFrom hspan
  exact ⟨rfl, stands_drop (source_ne_nil span) hstands, hstands.place_le⟩

theorem pairwise_spansOfLine (c : Cursor) :
    (spansOfLine c).value.Pairwise fun s t => s.stop.position ≤ t.start.position := by
  unfold spansOfLine
  rw [List.pairwise_map]
  exact (pairwise_spansFrom c.place (c.line.text.drop c.place)).imp fun h => c.line.position_le_position h

/-- The places from which the lines of a block are read: the first one from some place on, the others from their first
inked character on. -/
def readingStarts (first : NumberedLine) (place : Nat) (rest : List NumberedLine) : List Cursor :=
  ⟨first, place⟩ :: rest.map fun l => ⟨l, l.inkStart⟩

section Lines

variable {first : NumberedLine} {rest : List NumberedLine} (h : IsConsecutive (first :: rest)) {place : Nat}

include h

/-- A span of some consecutive lines stands in one of them, behind the place from which they are read and in front of
the end of their inked part. -/
theorem of_mem_spansOfLines {s : LocatedSpan} (hs : s ∈ (spansOfLines (readingStarts first place rest)).value) :
    s.line ∈ first :: rest ∧ s.IsWritten ∧ (⟨first, place⟩ : Cursor).position ≤ s.start.position ∧
      s.stop.position ≤ (inkEnd first rest).position := by
  obtain ⟨c, hc, hs⟩ := List.mem_flatMap.1 hs
  obtain ⟨hline, hwritten, hplace⟩ := of_mem_spansOfLine hs
  have hmem : c.line ∈ first :: rest ∧ (⟨first, place⟩ : Cursor).position ≤ c.position := by
    rcases List.mem_cons.1 hc with rfl | hc
    · exact ⟨List.mem_cons_self, le_rfl⟩
    · obtain ⟨l, hl, rfl⟩ := List.mem_map.1 hc
      exact ⟨List.mem_cons_of_mem first hl, NumberedLine.position_le_of_number_lt (h.number_lt_of_mem hl) _ _⟩
  have hstart : c.position ≤ s.start.position := by
    unfold Cursor.position LocatedSpan.start
    rw [hline]
    exact c.line.position_le_position hplace
  have hline : s.line ∈ first :: rest := hline ▸ hmem.1
  exact ⟨hline, hwritten, hmem.2.trans hstart, h.position_le_inkEnd hline hwritten.stop_le_inkStop⟩

/-- The spans of some consecutive lines stand one behind the other. -/
theorem pairwise_spansOfLines :
    (spansOfLines (readingStarts first place rest)).value.Pairwise fun s t => s.stop.position ≤ t.start.position := by
  have hlines : (readingStarts first place rest).Pairwise fun c d => c.line.number < d.line.number := by
    have hnumbers : ((readingStarts first place rest).map fun c => c.line.number) =
        (first :: rest).map NumberedLine.number := by
      unfold readingStarts
      rw [List.map_cons, List.map_map]
      rfl
    have hpairwise : ((readingStarts first place rest).map fun c => c.line.number).Pairwise (· < ·) := by
      rw [hnumbers, h.map_number]
      exact List.pairwise_lt_range'
    exact List.pairwise_map.1 hpairwise
  unfold spansOfLines
  rw [List.pairwise_flatMap]
  refine ⟨fun c _ => pairwise_spansOfLine c, hlines.imp ?_⟩
  intro c d hlt s hs t ht
  have hnumber : s.line.number < t.line.number := by
    rw [(of_mem_spansOfLine hs).1, (of_mem_spansOfLine ht).1]
    exact hlt
  exact NumberedLine.position_le_of_number_lt hnumber _ _

end Lines

/-! ## What belongs to a block -/

/-- The targets of a link where they stand in the text. -/
def Targets.phrases : Targets → List Phrase
  | phrase target => [target]
  | identifiers targets => targets

/-- The range of an item and those of its targets. -/
def ListItem.ranges : ListItem → List Range
  | text range => [range]
  | link range targets => range :: targets.phrases.map Phrase.range

/-- The range of a block and those of all that belongs to it. -/
def Block.ranges : Block → List Range
  | title range phrases => range :: phrases.map Phrase.range
  | heading _ range phrases => range :: phrases.map Phrase.range
  | sentence range => [range]
  | requirement range id clause => range :: id.range :: (clause.map Phrase.range).toList
  | list range items => range :: items.flatMap ListItem.ranges

/-- The targets of an item stand inside of it. -/
def ListItem.IsNested : ListItem → Prop
  | text _ => True
  | link range targets => ∀ target ∈ targets.phrases, target.range.IsInside range

/-- What belongs to a block stands inside of it, and the clause of a requirement behind its id. -/
def Block.IsNested : Block → Prop
  | title range phrases => ∀ phrase ∈ phrases, phrase.range.IsInside range
  | heading _ range phrases => ∀ phrase ∈ phrases, phrase.range.IsInside range
  | sentence _ => True
  | requirement range id clause =>
    id.range.IsInside range ∧ ∀ c ∈ clause, c.range.IsInside range ∧ id.range.stop ≤ c.range.start
  | list range items => ∀ item ∈ items, item.range.IsInside range ∧ item.IsNested

/-- The text at fault, as a range on its line; it is empty if no text is. -/
def SyntaxFault.range (f : SyntaxFault) : Range :=
  Range.onLine (f.line - 1) f.column (f.column + (f.token.map utf16Length).getD 0)

/-! ## Faults -/

section Faults

variable {ls : List Line} {c : Cursor} (hc : c.line ∈ numbered ls) (cause : FaultCause)

include hc

theorem isIn_fault_none : (c.fault cause none).range.IsIn ls :=
  ⟨le_rfl, NumberedLine.isIn_position hc c.place, NumberedLine.isIn_position hc c.place⟩

/-- A fault about a text that stands at its place is in the text. -/
theorem isIn_fault_some {token : List Char} (htoken : Stands 0 c.line.text c.place token) :
    (c.fault cause (some token)).range.IsIn ls := by
  obtain ⟨before, after, htext, hplace⟩ := htoken
  rw [Nat.zero_add] at hplace
  have hstop : (c.fault cause (some token)).range =
      rangeBetween c ⟨c.line, (before ++ token).length⟩ := by
    have hcolumn : column c.line.text c.place + utf16Length token = column c.line.text (before ++ token).length := by
      rw [hplace]
      exact column_add_utf16Length htext
    exact congrArg (Range.onLine c.line.number (column c.line.text c.place)) hcolumn
  rw [hstop]
  have hle : c.place ≤ (before ++ token).length := by
    rw [hplace, List.length_append]
    omega
  exact isIn_rangeBetween hc hc (c.line.position_le_position hle)

theorem isIn_of_mem_faults_spansOfLine {f : SyntaxFault} (hf : f ∈ (spansOfLine c).faults) : f.range.IsIn ls := by
  unfold spansOfLine at hf
  obtain ⟨⟨kind, place⟩, hunterminated, rfl⟩ := Option.map_eq_some_iff.1 (Option.mem_toList.1 hf)
  have hstands := stands_of_unterminated hunterminated
  have hmarker : kind.marker ≠ [] := by
    obtain ⟨front, hfront⟩ := exists_marker_eq_concat kind
    simp [hfront]
  exact isIn_fault_some (c := ⟨c.line, place⟩) hc _ (stands_drop hmarker hstands)

end Faults

/-! ## Blocks and items of consecutive lines -/

section Reading

variable {ls : List Line} {first : NumberedLine} {rest : List NumberedLine} (h : IsConsecutive (first :: rest))
  (hls : ∀ l ∈ first :: rest, l ∈ numbered ls) {place : Nat} {s : LocatedSpan}

include hls in
theorem isIn_of_mem_faults_spansOfLines {f : SyntaxFault}
    (hf : f ∈ (spansOfLines (readingStarts first place rest)).faults) : f.range.IsIn ls := by
  obtain ⟨c, hc, hf⟩ := List.mem_flatMap.1 hf
  have hline : c.line ∈ first :: rest := by
    rcases List.mem_cons.1 hc with rfl | hc
    · exact List.mem_cons_self
    · obtain ⟨l, hl, rfl⟩ := List.mem_map.1 hc
      exact List.mem_cons_of_mem first hl
  exact isIn_of_mem_faults_spansOfLine (hls c.line hline) hf

include hls in
theorem isIn_rangeBetween_inkEnd (h : IsConsecutive (first :: rest)) (hplace : place ≤ first.inkStop) :
    (rangeBetween ⟨first, place⟩ (inkEnd first rest)).IsIn ls :=
  isIn_rangeBetween (hls first List.mem_cons_self) (hls _ (IsConsecutive.inkEnd_line_mem first rest))
    (h.position_le_inkEnd List.mem_cons_self hplace)

include h hls

/-- A phrase is in the text, and inside of the block from whose lines it is read. -/
theorem phrase_of_mem_spansOfLines (hs : s ∈ (spansOfLines (readingStarts first place rest)).value) :
    s.phrase.range.IsIn ls ∧ s.phrase.range.IsInside (rangeBetween ⟨first, place⟩ (inkEnd first rest)) := by
  obtain ⟨hline, _, hstart, hstop⟩ := of_mem_spansOfLines h hs
  exact ⟨isIn_rangeBetween (hls s.line hline) (hls s.line hline) s.phrase_start_le_stop,
    hstart.trans s.start_le_phrase, s.phrase_le_stop.trans hstop⟩

/-- The clause between two spans is in the text and inside of the block, too. -/
theorem clause_of_mem_spansOfLines {id shall : LocatedSpan} {others : List LocatedSpan}
    (hspans : (spansOfLines (readingStarts first place rest)).value = id :: others) (hshall : shall ∈ others) :
    (rangeBetween id.stop shall.start).IsIn ls ∧
      (rangeBetween id.stop shall.start).IsInside (rangeBetween ⟨first, place⟩ (inkEnd first rest)) := by
  have hordered : id.stop.position ≤ shall.start.position := by
    have hpairwise : (spansOfLines (readingStarts first place rest)).value.Pairwise _ := pairwise_spansOfLines h
    rw [hspans] at hpairwise
    exact (List.pairwise_cons.1 hpairwise).1 shall hshall
  obtain ⟨hline, _, hstart, _⟩ := of_mem_spansOfLines h (hspans ▸ List.mem_cons_self)
  obtain ⟨hline', _, _, hstop⟩ := of_mem_spansOfLines h (hspans ▸ List.mem_cons_of_mem id hshall)
  exact ⟨isIn_rangeBetween (hls id.line hline) (hls shall.line hline') hordered,
    hstart.trans id.start_le_stop, shall.start_le_stop.trans hstop⟩

end Reading

/-- The block is in the text, with all that belongs to it. -/
def Block.IsIn (ls : List Line) (b : Block) : Prop := (∀ r ∈ b.ranges, r.IsIn ls) ∧ b.IsNested

section Content

variable {ls : List Line} {l : NumberedLine} (hl : l ∈ numbered ls) (hinked : isBlankLine l.text = false)

include hl hinked

theorem isIn_readContent :
    (∀ r ∈ (readContent l).value.1 :: (readContent l).value.2.map Phrase.range, r.IsIn ls) ∧
      ∀ phrase ∈ (readContent l).value.2, phrase.range.IsInside (readContent l).value.1 := by
  have hls : ∀ m ∈ [l], m ∈ numbered ls := by
    intro m hm
    exact List.mem_singleton.1 hm ▸ hl
  have hphrase : ∀ phrase ∈ (readContent l).value.2,
      phrase.range.IsIn ls ∧ phrase.range.IsInside (readContent l).value.1 := by
    intro phrase hphrase
    obtain ⟨s, hs, rfl⟩ := List.mem_map.1 hphrase
    have hspan : s ∈ (spansOfLines (readingStarts l l.contentStart [])).value :=
      List.mem_flatMap.2 ⟨_, List.mem_singleton_self _, (List.mem_filter.1 hs).1⟩
    exact phrase_of_mem_spansOfLines (List.isChain_singleton l) hls hspan
  refine ⟨?_, fun phrase hmem => (hphrase phrase hmem).2⟩
  intro r hr
  rcases List.mem_cons.1 hr with rfl | hr
  · exact isIn_rangeBetween_inkEnd hls (List.isChain_singleton l) (NumberedLine.contentStart_bounds hinked).2
  · obtain ⟨phrase, hmem, rfl⟩ := List.mem_map.1 hr
    exact (hphrase phrase hmem).1

end Content

/-! ## Paragraphs -/

section Paragraph

variable {ls : List Line} {first : NumberedLine} {rest : List NumberedLine} (h : IsConsecutive (first :: rest))
  (hls : ∀ l ∈ first :: rest, l ∈ numbered ls)

theorem mem_faults_readParagraph {f : SyntaxFault} (hf : f ∈ (readParagraph first rest).faults) :
    f ∈ (spansOfLines (readingStarts first first.inkStart rest)).faults ∨
      f = (inkEnd first rest).fault .missingKeyword none := by
  unfold readParagraph at hf
  simp only at hf
  split at hf
  · exact .inl hf
  · split at hf
    · split at hf
      · exact .inl hf
      · rcases List.mem_append.1 hf with hf | hf
        · exact .inl hf
        · exact .inr (List.mem_singleton.1 hf)
    · exact .inl hf

include hls in
theorem isIn_faults_readParagraph {f : SyntaxFault} (hf : f ∈ (readParagraph first rest).faults) :
    f.range.IsIn ls := by
  rcases mem_faults_readParagraph hf with hf | rfl
  · exact isIn_of_mem_faults_spansOfLines hls hf
  · exact isIn_fault_none (hls _ (IsConsecutive.inkEnd_line_mem first rest)) _

include h hls

theorem isIn_readParagraph (hinked : isBlankLine first.text = false) : (readParagraph first rest).value.IsIn ls := by
  have hrange := isIn_rangeBetween_inkEnd hls h (NumberedLine.inkStart_le_inkStop hinked)
  rcases readParagraph_spans_cases first rest with hvalue | ⟨id, others, hspans, _, hvalue⟩
  · rw [hvalue]
    exact ⟨List.forall_mem_singleton.2 hrange, trivial⟩
  · obtain ⟨hid, hidInside⟩ := phrase_of_mem_spansOfLines h hls (hspans ▸ List.mem_cons_self)
    rcases hvalue with hvalue | ⟨shall, hshall, clause, hvalue, hclause⟩
    · rw [hvalue]
      refine ⟨?_, hidInside, fun c hc => absurd hc (by simp)⟩
      exact List.forall_mem_cons.2 ⟨hrange, List.forall_mem_singleton.2 hid⟩
    · obtain ⟨hin, hinside⟩ := clause_of_mem_spansOfLines h hls hspans hshall
      rw [← hclause] at hin hinside
      rw [hvalue]
      refine ⟨?_, hidInside, ?_⟩
      · exact List.forall_mem_cons.2 ⟨hrange, List.forall_mem_cons.2 ⟨hid, List.forall_mem_singleton.2 hin⟩⟩
      · intro c hc
        obtain rfl := Option.some.inj hc
        refine ⟨hinside, ?_⟩
        rw [hclause]
        exact id.phrase_le_stop

end Paragraph

/-! ## Lists -/

/-- A single bold span is a target, whether it is an identifier or free text. -/
theorem readTargets_singleton (start : Cursor) (lines : List NumberedLine) (s : LocatedSpan) :
    (readTargets start lines [s]).value.phrases.map Phrase.range = [s.phrase.range] ∧
      (readTargets start lines [s]).faults = [] := by
  simp only [readTargets]
  split
  · exact ⟨rfl, rfl⟩
  · exact ⟨rfl, rfl⟩

theorem exists_of_mem_phrases {start : Cursor} {lines : List NumberedLine} {spans : List LocatedSpan} {target : Phrase}
    (h : target ∈ (readTargets start lines spans).value.phrases) : ∃ s ∈ spans, target.range = s.phrase.range := by
  match spans with
  | [] => cases h
  | [s] =>
    have hrange := List.mem_map_of_mem (f := Phrase.range) h
    rw [(readTargets_singleton start lines s).1] at hrange
    exact ⟨s, List.mem_singleton_self s, List.mem_singleton.1 hrange⟩
  | first :: second :: others =>
    obtain ⟨s, hs, rfl⟩ := List.mem_map.1 h
    exact ⟨s, (List.mem_filter.1 hs).1, rfl⟩

theorem exists_eq_fault_of_mem_targetFaults {separated : Bool} {s : LocatedSpan} {f : SyntaxFault}
    (h : f ∈ targetFaults separated s) : ∃ cause, f = s.start.fault cause (some s.span.source) := by
  unfold targetFaults at h
  rcases List.mem_append.1 h with h | h
  · split at h
    · cases h
    · exact ⟨_, List.mem_singleton.1 h⟩
  · split at h
    · cases h
    · exact ⟨_, List.mem_singleton.1 h⟩

/-- A fault of the targets is about one of their spans, or there is none and it is about the link word. -/
theorem mem_faults_readTargets {start : Cursor} {lines : List NumberedLine} {spans : List LocatedSpan} {f : SyntaxFault}
    (h : f ∈ (readTargets start lines spans).faults) :
    f = start.fault .missingTarget (some linkWord) ∨
      ∃ s ∈ spans, ∃ cause, f = s.start.fault cause (some s.span.source) := by
  match spans with
  | [] => exact .inl (List.mem_singleton.1 h)
  | [s] =>
    rw [(readTargets_singleton start lines s).2] at h
    cases h
  | first :: second :: others =>
    rcases List.mem_append.1 h with h | h
    · exact .inr ⟨first, List.mem_cons_self, exists_eq_fault_of_mem_targetFaults h⟩
    · obtain ⟨⟨s, t⟩, hpair, h⟩ := List.mem_flatMap.1 h
      exact .inr ⟨t, List.mem_cons_of_mem first (List.of_mem_zip hpair).2, exists_eq_fault_of_mem_targetFaults h⟩

/-- An item is plain text, or a link whose first line says so. -/
theorem readItem_cases (item : ItemLines) :
    let start : Cursor := ⟨item.first, item.first.contentStart⟩
    let range := rangeBetween start (inkEnd item.first item.rest)
    let read := spansOfLines (readingStarts item.first item.first.contentStart item.rest)
    let targets := readTargets start item.lines (read.value.filter LocatedSpan.isBold)
    readItem item = ⟨.text range, read.faults⟩ ∨
      isLink (item.first.text.drop start.place) = true ∧
        readItem item = ⟨.link range targets.value, read.faults ++ targets.faults⟩ := by
  intro start range read targets
  cases hlink : isLink (item.first.text.drop start.place) with
  | false =>
    left
    unfold readItem
    simp only
    rw [if_neg (by rw [hlink]; exact Bool.false_ne_true)]
    rfl
  | true =>
    refine .inr ⟨rfl, ?_⟩
    unfold readItem
    simp only
    rw [if_pos hlink]
    rfl

section Item

variable {ls : List Line} {item : ItemLines} (h : IsConsecutive item.lines) (hls : ∀ l ∈ item.lines, l ∈ numbered ls)

include h hls in
theorem isIn_readItem (hinked : isBlankLine item.first.text = false) :
    (∀ r ∈ (readItem item).value.ranges, r.IsIn ls) ∧ (readItem item).value.IsNested := by
  have hrange := isIn_rangeBetween_inkEnd hls h (NumberedLine.contentStart_bounds hinked).2
  rcases readItem_cases item with hread | ⟨_, hread⟩
  · rw [hread]
    exact ⟨List.forall_mem_singleton.2 hrange, trivial⟩
  · rw [hread]
    refine ⟨List.forall_mem_cons.2 ⟨hrange, ?_⟩, ?_⟩
    · intro r hr
      obtain ⟨target, htarget, rfl⟩ := List.mem_map.1 hr
      obtain ⟨s, hs, hphrase⟩ := exists_of_mem_phrases htarget
      rw [hphrase]
      exact (phrase_of_mem_spansOfLines h hls (List.mem_filter.1 hs).1).1
    · intro target htarget
      obtain ⟨s, hs, hphrase⟩ := exists_of_mem_phrases htarget
      rw [hphrase]
      exact (phrase_of_mem_spansOfLines h hls (List.mem_filter.1 hs).1).2

/-- The link word stands where the content of a link starts. -/
theorem stands_linkWord {line : Line} {place : Nat} (hlink : isLink (line.drop place) = true) :
    Stands 0 line place linkWord := by
  unfold isLink at hlink
  rw [Bool.and_eq_true] at hlink
  obtain ⟨after, hafter⟩ := List.isPrefixOf_iff_prefix.1 hlink.1
  exact stands_drop (List.cons_ne_nil _ _) ⟨[], after, hafter.symm, rfl⟩

include h hls in
theorem isIn_faults_readItem {f : SyntaxFault} (hf : f ∈ (readItem item).faults) : f.range.IsIn ls := by
  have hfirst : item.first ∈ numbered ls := hls item.first List.mem_cons_self
  rcases readItem_cases item with hread | ⟨hlink, hread⟩
  · rw [hread] at hf
    exact isIn_of_mem_faults_spansOfLines hls hf
  · rw [hread] at hf
    rcases List.mem_append.1 hf with hf | hf
    · exact isIn_of_mem_faults_spansOfLines hls hf
    · rcases mem_faults_readTargets hf with rfl | ⟨s, hs, cause, rfl⟩
      · exact isIn_fault_some (c := ⟨item.first, item.first.contentStart⟩) hfirst _ (stands_linkWord hlink)
      · obtain ⟨hline, hwritten, _⟩ := of_mem_spansOfLines h (List.mem_filter.1 hs).1
        exact isIn_fault_some (c := s.start) (hls s.line hline) _ hwritten

end Item

section List

variable {ls : List Line} {first : NumberedLine} {rest : List NumberedLine} (h : IsConsecutive (first :: rest))
  (hls : ∀ l ∈ first :: rest, l ∈ numbered ls)

include h in
/-- The items of a list stand inside of it. -/
theorem isInside_readItem (hinked : ∀ l ∈ first :: rest, isBlankLine l.text = false) {item : ItemLines}
    (hitem : item ∈ ItemLines.ofList first rest) :
    (readItem item).value.range.IsInside (rangeBetween ⟨first, first.inkStart⟩ (inkEnd first rest)) := by
  have hlines := ItemLines.lines_infix_of_mem_ofList hitem
  have hlast := hlines.subset (IsConsecutive.inkEnd_line_mem item.first item.rest)
  have hstart : ∀ l ∈ first :: rest, first.position first.inkStart ≤ l.position l.contentStart := by
    intro l hl
    have hcontent := (NumberedLine.contentStart_bounds (hinked l hl)).1
    rcases List.mem_cons.1 hl with rfl | hl
    · exact l.position_le_position hcontent
    · exact NumberedLine.position_le_of_number_lt (h.number_lt_of_mem hl) _ _
  rw [range_readItem]
  exact ⟨hstart item.first (hlines.subset List.mem_cons_self), h.position_le_inkEnd hlast le_rfl⟩

include h hls

theorem isIn_readList (hinked : ∀ l ∈ first :: rest, isBlankLine l.text = false) :
    (readList first rest).value.IsIn ls := by
  have hrange := isIn_rangeBetween_inkEnd hls h (NumberedLine.inkStart_le_inkStop (hinked first List.mem_cons_self))
  have hitem : ∀ item ∈ ItemLines.ofList first rest,
      (∀ r ∈ (readItem item).value.ranges, r.IsIn ls) ∧ (readItem item).value.IsNested := by
    intro item hitem
    have hlines := ItemLines.lines_infix_of_mem_ofList hitem
    exact isIn_readItem (h.part hlines) (fun l hl => hls l (hlines.subset hl))
      (hinked item.first (hlines.subset List.mem_cons_self))
  have hvalue : ∀ value ∈ ((ItemLines.ofList first rest).map readItem).map Reading.value,
      ∃ item ∈ ItemLines.ofList first rest, value = (readItem item).value := by
    intro value hmem
    rw [List.map_map] at hmem
    obtain ⟨item, hitem, rfl⟩ := List.mem_map.1 hmem
    exact ⟨item, hitem, rfl⟩
  refine ⟨List.forall_mem_cons.2 ⟨hrange, ?_⟩, ?_⟩
  · intro r hr
    obtain ⟨value, hvalues, hr⟩ := List.mem_flatMap.1 hr
    obtain ⟨item, hmem, rfl⟩ := hvalue value hvalues
    exact (hitem item hmem).1 r hr
  · intro value hvalues
    obtain ⟨item, hmem, rfl⟩ := hvalue value hvalues
    exact ⟨isInside_readItem h hinked hmem, (hitem item hmem).2⟩

theorem isIn_faults_readList {f : SyntaxFault} (hf : f ∈ (readList first rest).faults) : f.range.IsIn ls := by
  obtain ⟨read, hread, hf⟩ := List.mem_flatMap.1 hf
  obtain ⟨item, hitem, rfl⟩ := List.mem_map.1 hread
  have hlines := ItemLines.lines_infix_of_mem_ofList hitem
  exact isIn_faults_readItem (h.part hlines) (fun l hl => hls l (hlines.subset hl)) hf

end List

/-! ## Documents -/

section Document

variable {ls : List Line} {c : Chunk} (h : IsConsecutive c.lines) (hls : ∀ l ∈ c.lines, l ∈ numbered ls)

include h hls

theorem isIn_readChunk (hinked : ∀ l ∈ c.lines, isBlankLine l.text = false) : (readChunk c).value.IsIn ls := by
  cases c with
  | heading level line =>
    exact isIn_readContent (hls line (List.mem_singleton_self _)) (hinked line (List.mem_singleton_self _))
  | paragraph first rest => exact isIn_readParagraph h hls (hinked first List.mem_cons_self)
  | list first rest => exact isIn_readList h hls hinked

theorem isIn_faults_readChunk {f : SyntaxFault} (hf : f ∈ (readChunk c).faults) : f.range.IsIn ls := by
  cases c with
  | heading level line =>
    exact isIn_of_mem_faults_spansOfLine (c := ⟨line, line.contentStart⟩) (hls line (List.mem_singleton_self _)) hf
  | paragraph first rest => exact isIn_faults_readParagraph hls hf
  | list first rest => exact isIn_faults_readList h hls hf

end Document

/-- All that is read from a document is in its text. -/
theorem isIn_of_mem_readLines {ls : List Line} {read : Reading Block} (h : read ∈ readLines (numbered ls)) :
    read.value.IsIn ls ∧ ∀ f ∈ read.faults, f.range.IsIn ls := by
  rcases exists_chunk_of_mem_readLines h with ⟨l, hl, htitle, rfl⟩ | ⟨c, hlines, hinked, rfl⟩
  · exact ⟨isIn_readContent hl (isBlankLine_of_isTitle htitle),
      fun f hf => isIn_of_mem_faults_spansOfLine (c := ⟨l, l.contentStart⟩) hl hf⟩
  · have hchunk := (isConsecutive_numbered ls).part hlines
    have hls : ∀ l ∈ c.lines, l ∈ numbered ls := fun l hl => hlines.subset hl
    exact ⟨isIn_readChunk hchunk hls hinked, fun f hf => isIn_faults_readChunk hchunk hls hf⟩

end Traceability.Document
