import Mathlib.Data.List.Basic
import Mathlib.Data.List.Chain
import Mathlib.Data.List.TakeWhile
import Traceability.Document.Reading
set_option autoImplicit false

/-!
# Blocks and the lines of a document

Cutting the lines of a document into chunks keeps every line that is not blank, once and in order.  A chunk is a
stretch of consecutive lines, and the range of the block that it makes reaches from its first line to its last one.
So the ranges of the blocks share the lines of the document out among them; the items of a list do the same with
the lines of the list.
-/

namespace Traceability

namespace Text

/-- Whether a line holds nothing but blanks. -/
def isBlankLine (line : Line) : Bool := line.all isBlank

/-- The numbers of the lines from the start of a range to its end. -/
def Range.lineNumbers (r : Range) : List Nat := List.range' r.start.line (r.stop.line + 1 - r.start.line)

theorem Range.mem_lineNumbers_iff (r : Range) (n : Nat) :
    n ∈ r.lineNumbers ↔ r.start.line ≤ n ∧ n ≤ r.stop.line := by
  unfold lineNumbers
  rw [List.mem_range'_1]
  omega

end Text

namespace Document

open Text

/-! ## Kinds of lines -/

theorem trimStart_eq_nil_iff (line : Line) : trimStart line = [] ↔ isBlankLine line = true := by
  unfold trimStart isBlankLine
  rw [List.dropWhile_eq_nil_iff, List.all_eq_true]

theorem classify_eq_blank_iff (line : Line) : classify line = .blank ↔ isBlankLine line = true := by
  rw [← trimStart_eq_nil_iff]
  unfold classify
  constructor
  · intro h
    split at h
    · next hnil => exact hnil
    · simp only at h
      split at h
      · cases h
      · split at h
        · cases h
        · cases h
  · intro h
    rw [h]

namespace NumberedLine

theorem isBlankLine_of_kind_ne_blank {l : NumberedLine} (h : l.kind ≠ .blank) : isBlankLine l.text = false := by
  rw [Bool.eq_false_iff]
  exact mt (classify_eq_blank_iff l.text).2 h

theorem isBlankLine_of_isText {l : NumberedLine} (h : l.isText = true) : isBlankLine l.text = false := by
  apply isBlankLine_of_kind_ne_blank
  intro hblank
  unfold isText at h
  rw [hblank] at h
  cases h

theorem isBlankLine_of_continuesList {l : NumberedLine} (h : l.continuesList = true) :
    isBlankLine l.text = false := by
  apply isBlankLine_of_kind_ne_blank
  intro hblank
  unfold continuesList at h
  rw [hblank] at h
  cases h

end NumberedLine

/-! ## Chunks -/

namespace Chunk

/-- What a block takes of the lines behind its first one are no blank lines. -/
theorem filter_takeWhile_append_dropWhile {p : NumberedLine → Bool}
    (hp : ∀ l, p l = true → isBlankLine l.text = false) (ls : List NumberedLine) :
    ls.filter (fun l => !isBlankLine l.text) =
      ls.takeWhile p ++ (ls.dropWhile p).filter fun l => !isBlankLine l.text := by
  have htaken : (ls.takeWhile p).filter (fun l => !isBlankLine l.text) = ls.takeWhile p := by
    rw [List.filter_eq_self]
    intro l hl
    rw [hp l (List.mem_takeWhile_imp hl), Bool.not_false]
  conv_lhs => rw [← List.takeWhile_append_dropWhile (p := p) (l := ls)]
  rw [List.filter_append, htaken]

/-- Each line that is not blank is in just one chunk, and the lines keep their order. -/
theorem flatMap_lines_ofLines (ls : List NumberedLine) :
    (ofLines ls).flatMap lines = ls.filter fun l => !isBlankLine l.text := by
  fun_induction ofLines ls with
  | case1 => rfl
  | case2 l rest hkind ih =>
    have hblank := (classify_eq_blank_iff l.text).1 hkind
    rw [ih, List.filter_cons_of_neg (by simp [hblank])]
  | case3 l rest level content hkind ih =>
    have hinked := l.isBlankLine_of_kind_ne_blank (by simp [hkind])
    rw [List.flatMap_cons, ih, List.filter_cons_of_pos (by simp [hinked])]
    rfl
  | case4 l rest content hkind ih =>
    have hinked := l.isBlankLine_of_kind_ne_blank (by simp [hkind])
    rw [List.flatMap_cons, ih, List.filter_cons_of_pos (by simp [hinked]),
      filter_takeWhile_append_dropWhile (fun _ => NumberedLine.isBlankLine_of_continuesList) rest]
    rfl
  | case5 l rest indented hkind ih =>
    have hinked := l.isBlankLine_of_kind_ne_blank (by simp [hkind])
    rw [List.flatMap_cons, ih, List.filter_cons_of_pos (by simp [hinked]),
      filter_takeWhile_append_dropWhile (fun _ => NumberedLine.isBlankLine_of_isText) rest]
    rfl

/-- A line with what follows it up to some place is a stretch of all lines. -/
theorem cons_takeWhile_infix (p : NumberedLine → Bool) (l : NumberedLine) (rest : List NumberedLine) :
    l :: rest.takeWhile p <:+: l :: rest :=
  ((List.prefix_cons_inj l).2 (List.takeWhile_prefix p)).isInfix

/-- The lines of a chunk stand together in the document. -/
theorem lines_infix_of_mem_ofLines {ls : List NumberedLine} {c : Chunk} (h : c ∈ ofLines ls) : c.lines <:+: ls := by
  fun_induction ofLines ls with
  | case1 => cases h
  | case2 l rest hkind ih => exact (ih h).trans (List.infix_cons List.infix_rfl)
  | case3 l rest level content hkind ih =>
    rcases List.mem_cons.1 h with rfl | h
    · exact ((List.prefix_cons_inj l).2 List.nil_prefix).isInfix
    · exact (ih h).trans (List.infix_cons List.infix_rfl)
  | case4 l rest content hkind ih =>
    rcases List.mem_cons.1 h with rfl | h
    · exact cons_takeWhile_infix _ l rest
    · exact ((ih h).trans (List.dropWhile_suffix _).isInfix).trans (List.infix_cons List.infix_rfl)
  | case5 l rest indented hkind ih =>
    rcases List.mem_cons.1 h with rfl | h
    · exact cons_takeWhile_infix _ l rest
    · exact ((ih h).trans (List.dropWhile_suffix _).isInfix).trans (List.infix_cons List.infix_rfl)

end Chunk

/-! ## Consecutive lines -/

/-- Each line has the number after that of the line before. -/
def IsConsecutive (ls : List NumberedLine) : Prop := ls.IsChain fun l next => next.number = l.number + 1

theorem IsConsecutive.part {ls part : List NumberedLine} (h : IsConsecutive ls) (hpart : part <:+: ls) :
    IsConsecutive part :=
  List.IsChain.infix h hpart

namespace IsConsecutive

variable {first : NumberedLine} {rest : List NumberedLine}

theorem map_number (h : IsConsecutive (first :: rest)) :
    (first :: rest).map NumberedLine.number = List.range' first.number (rest.length + 1) := by
  induction rest generalizing first with
  | nil => rfl
  | cons second others ih =>
    obtain ⟨hnext, hothers⟩ := List.isChain_cons_cons.1 h
    have hrange : List.range' first.number (others.length + 1 + 1) =
        first.number :: List.range' (first.number + 1) (others.length + 1) := List.range'_succ
    rw [List.map_cons, ih hothers, List.length_cons, hnext, hrange]

theorem number_getLast (h : IsConsecutive (first :: rest)) :
    (rest.getLast?.getD first).number = first.number + rest.length := by
  induction rest generalizing first with
  | nil => rfl
  | cons second others ih =>
    obtain ⟨hnext, hothers⟩ := List.isChain_cons_cons.1 h
    rw [List.getLast?_cons, Option.getD_some, ih hothers, hnext, List.length_cons]
    omega

/-- A range from some place in the first line to the inked end of the last one has just these lines. -/
theorem lineNumbers_rangeBetween (h : IsConsecutive (first :: rest)) (place : Nat) :
    (rangeBetween ⟨first, place⟩ (inkEnd first rest)).lineNumbers = (first :: rest).map NumberedLine.number := by
  have hstart : (rangeBetween ⟨first, place⟩ (inkEnd first rest)).start.line = first.number := rfl
  have hstop : (rangeBetween ⟨first, place⟩ (inkEnd first rest)).stop.line = (rest.getLast?.getD first).number := rfl
  unfold Range.lineNumbers
  rw [hstart, hstop, h.number_getLast, h.map_number]
  congr 1
  omega

end IsConsecutive

/-! ## Ranges of items and blocks -/

theorem range_readItem (item : ItemLines) :
    (readItem item).value.range =
      rangeBetween ⟨item.first, item.first.contentStart⟩ (inkEnd item.first item.rest) := by
  unfold readItem
  simp only
  split
  · rfl
  · rfl

/-- A paragraph that begins with an id is a requirement.  Its clause is the text from there to the keyword. -/
theorem readParagraph_of_opens {first : NumberedLine} {rest : List NumberedLine} {id : LocatedSpan}
    {others : List LocatedSpan}
    (hspans : (spansOfLines ((first :: rest).map fun l => ⟨l, l.inkStart⟩)).value = id :: others)
    (hid : opensRequirement first id = true) :
    readParagraph first rest =
      ⟨.requirement (rangeBetween ⟨first, first.inkStart⟩ (inkEnd first rest)) id.phrase
          ((others.find? LocatedSpan.isKeyword).map fun shall =>
            ⟨textBetween (first :: rest) id.stop shall.start, rangeBetween id.stop shall.start⟩),
        (spansOfLines ((first :: rest).map fun l => ⟨l, l.inkStart⟩)).faults ++
          if (others.find? LocatedSpan.isKeyword).isNone then [(inkEnd first rest).fault .missingKeyword none]
          else []⟩ := by
  unfold readParagraph
  simp only [hspans, hid, if_true]
  cases others.find? LocatedSpan.isKeyword with
  | none => rfl
  | some shall =>
    simp only [Option.isNone_some, Bool.false_eq_true, if_false, List.append_nil]
    rfl

/-- A paragraph makes a sentence or a requirement.  The id of a requirement is its first span, and its clause reaches
from there to a later one. -/
theorem readParagraph_spans_cases (first : NumberedLine) (rest : List NumberedLine) :
    let range := rangeBetween ⟨first, first.inkStart⟩ (inkEnd first rest)
    let spans := (spansOfLines ((first :: rest).map fun l => ⟨l, l.inkStart⟩)).value
    (readParagraph first rest).value = .sentence range ∨
      ∃ id others, spans = id :: others ∧ opensRequirement first id = true ∧
        ((readParagraph first rest).value = .requirement range id.phrase none ∨
          ∃ shall ∈ others, ∃ clause, (readParagraph first rest).value = .requirement range id.phrase (some clause) ∧
            clause.range = rangeBetween id.stop shall.start) := by
  intro range spans
  cases hspans : (spansOfLines ((first :: rest).map fun l => ⟨l, l.inkStart⟩)).value with
  | nil =>
    left
    unfold readParagraph
    simp only [hspans]
    rfl
  | cons id others =>
    by_cases hid : opensRequirement first id = true
    · rw [readParagraph_of_opens hspans hid]
      refine .inr ⟨id, others, hspans, hid, ?_⟩
      cases hshall : others.find? LocatedSpan.isKeyword with
      | none => exact .inl rfl
      | some shall => exact .inr ⟨shall, List.mem_of_find?_eq_some hshall, _, rfl, rfl⟩
    · left
      unfold readParagraph
      simp only [hspans, hid]
      rfl

/-- A paragraph makes a sentence, or a requirement if it begins with an id. -/
theorem readParagraph_cases (first : NumberedLine) (rest : List NumberedLine) :
    let range := rangeBetween ⟨first, first.inkStart⟩ (inkEnd first rest)
    (readParagraph first rest).value = .sentence range ∨
      ∃ id clause, opensRequirement first id = true ∧
        (readParagraph first rest).value = .requirement range id.phrase clause := by
  intro range
  rcases readParagraph_spans_cases first rest with hvalue | ⟨id, _, _, hid, hvalue | ⟨_, _, clause, hvalue, _⟩⟩
  · exact .inl hvalue
  · exact .inr ⟨id, none, hid, hvalue⟩
  · exact .inr ⟨id, some clause, hid, hvalue⟩

theorem range_readParagraph (first : NumberedLine) (rest : List NumberedLine) :
    (readParagraph first rest).value.range = rangeBetween ⟨first, first.inkStart⟩ (inkEnd first rest) := by
  rcases readParagraph_cases first rest with hvalue | ⟨id, clause, _, hvalue⟩
  · rw [hvalue]
    rfl
  · rw [hvalue]
    rfl

theorem lineNumbers_readTitle (l : NumberedLine) : (readTitle l).value.range.lineNumbers = [l.number] :=
  IsConsecutive.lineNumbers_rangeBetween (List.isChain_singleton l) l.contentStart

/-- The range of a block reaches over the lines of its chunk. -/
theorem lineNumbers_readChunk {c : Chunk} (h : IsConsecutive c.lines) :
    (readChunk c).value.range.lineNumbers = c.lines.map NumberedLine.number := by
  cases c with
  | heading level line => exact IsConsecutive.lineNumbers_rangeBetween h line.contentStart
  | paragraph first rest =>
    have hrange : (readChunk (.paragraph first rest)).value.range = _ := range_readParagraph first rest
    rw [hrange]
    exact h.lineNumbers_rangeBetween first.inkStart
  | list first rest => exact h.lineNumbers_rangeBetween first.inkStart

/-- The lines of an item stand together in its list. -/
theorem ItemLines.lines_infix_of_mem_ofList {first : NumberedLine} {rest : List NumberedLine} {item : ItemLines}
    (hitem : item ∈ ofList first rest) : item.lines <:+: first :: rest := by
  obtain ⟨_, _, _, _, hlines⟩ := flatMap_ofList first rest
  rw [← hlines, List.flatMap_def]
  exact List.infix_of_mem_flatten (List.mem_map_of_mem hitem)

theorem lineNumbers_readItem {first : NumberedLine} {rest : List NumberedLine} (h : IsConsecutive (first :: rest))
    {item : ItemLines} (hitem : item ∈ ItemLines.ofList first rest) :
    (readItem item).value.range.lineNumbers = item.lines.map NumberedLine.number := by
  rw [range_readItem]
  exact IsConsecutive.lineNumbers_rangeBetween (h.part (ItemLines.lines_infix_of_mem_ofList hitem))
    item.first.contentStart

/-- The ranges of the items of a list have just its lines. -/
theorem flatMap_lineNumbers_items {first : NumberedLine} {rest : List NumberedLine}
    (h : IsConsecutive (first :: rest)) :
    ((ItemLines.ofList first rest).map fun item => (readItem item).value).flatMap (fun item => item.range.lineNumbers) =
      (first :: rest).map NumberedLine.number := by
  obtain ⟨_, _, _, _, hlines⟩ := ItemLines.flatMap_ofList first rest
  rw [List.flatMap_map, ← hlines, List.map_flatMap]
  exact List.flatMap_congr fun item hitem => lineNumbers_readItem h hitem

/-! ## Numbered lines -/

theorem map_number_numbered (ls : List Line) : (numbered ls).map NumberedLine.number = List.range ls.length := by
  have hnumber : (numbered ls).map NumberedLine.number = ls.zipIdx.map Prod.snd := by
    unfold numbered
    rw [List.map_map]
    rfl
  rw [hnumber, List.zipIdx_map_snd, List.range_eq_range']

theorem mem_numbered_iff (ls : List Line) (l : NumberedLine) : l ∈ numbered ls ↔ ls[l.number]? = some l.text := by
  unfold numbered
  rw [List.mem_map]
  constructor
  · rintro ⟨entry, hentry, rfl⟩
    exact List.mem_zipIdx_iff_getElem?.1 hentry
  · intro hline
    exact ⟨(l.text, l.number), List.mem_zipIdx_iff_getElem?.2 hline, rfl⟩

theorem isConsecutive_numbered (ls : List Line) : IsConsecutive (numbered ls) := by
  unfold IsConsecutive
  rw [List.isChain_iff_getElem]
  intro i hi
  simp [numbered]

/-! ## Documents -/

/-- Where a row of ranges has increasing line numbers, each range ends before the next one starts. -/
theorem pairwise_of_flatMap_lineNumbers {α : Type} {range : α → Range} {xs : List α}
    (hlines : ∀ x ∈ xs, (range x).start.line ≤ (range x).stop.line)
    (h : (xs.flatMap fun x => (range x).lineNumbers).Pairwise (· < ·)) :
    xs.Pairwise fun a b => (range a).stop.line < (range b).start.line := by
  refine (List.pairwise_flatMap.1 h).2.imp_of_mem ?_
  intro a b ha hb hlt
  exact hlt _ ((Range.mem_lineNumbers_iff _ _).2 ⟨hlines a ha, le_rfl⟩) _
    ((Range.mem_lineNumbers_iff _ _).2 ⟨le_rfl, hlines b hb⟩)

theorem start_le_stop_of_lineNumbers_ne_nil {r : Range} (h : r.lineNumbers ≠ []) : r.start.line ≤ r.stop.line := by
  obtain ⟨n, hn⟩ := List.exists_mem_of_ne_nil _ h
  have hmem := (r.mem_lineNumbers_iff n).1 hn
  omega

/-- The numbers of the lines that are not blank, and so have to be read. -/
def inkedNumbers (ls : List NumberedLine) : List Nat :=
  (ls.filter fun l => !isBlankLine l.text).map NumberedLine.number

theorem Chunk.lines_ne_nil (c : Chunk) : c.lines ≠ [] := by
  cases c with
  | heading level line => exact List.cons_ne_nil _ _
  | paragraph first rest => exact List.cons_ne_nil _ _
  | list first rest => exact List.cons_ne_nil _ _

/-- The ranges of the blocks of a body have just its lines that are not blank. -/
theorem flatMap_lineNumbers_readBody {ls : List NumberedLine} (h : IsConsecutive ls) :
    (readBody ls).flatMap (fun read => read.value.range.lineNumbers) = inkedNumbers ls := by
  have hchunk : ∀ c ∈ Chunk.ofLines ls,
      (readChunk c).value.range.lineNumbers = c.lines.map NumberedLine.number := by
    intro c hc
    exact lineNumbers_readChunk (h.part (Chunk.lines_infix_of_mem_ofLines hc))
  unfold readBody inkedNumbers
  rw [List.flatMap_map, ← Chunk.flatMap_lines_ofLines, List.map_flatMap]
  exact List.flatMap_congr hchunk

theorem readLines_cons (first : NumberedLine) (rest : List NumberedLine) :
    readLines (first :: rest) =
      if isTitle first then readTitle first :: readBody rest else readBody (first :: rest) := rfl

theorem isBlankLine_of_isTitle {l : NumberedLine} (h : isTitle l = true) : isBlankLine l.text = false := by
  apply NumberedLine.isBlankLine_of_kind_ne_blank
  intro hblank
  unfold isTitle at h
  rw [hblank] at h
  cases h

theorem flatMap_lineNumbers_readLines {ls : List NumberedLine} (h : IsConsecutive ls) :
    (readLines ls).flatMap (fun read => read.value.range.lineNumbers) = inkedNumbers ls := by
  cases ls with
  | nil => rfl
  | cons first rest =>
    rw [readLines_cons]
    split
    · next htitle =>
      have hrest : IsConsecutive rest := h.part (List.suffix_cons first rest).isInfix
      rw [List.flatMap_cons, lineNumbers_readTitle, flatMap_lineNumbers_readBody hrest]
      unfold inkedNumbers
      rw [List.filter_cons_of_pos (by simp [isBlankLine_of_isTitle htitle])]
      rfl
    · exact flatMap_lineNumbers_readBody h

/-- A block is read from the title, or from a chunk of lines that stand together and are not blank. -/
theorem exists_chunk_of_mem_readLines {ls : List NumberedLine} {read : Reading Block} (hread : read ∈ readLines ls) :
    (∃ l ∈ ls, isTitle l = true ∧ read = readTitle l) ∨
      ∃ c : Chunk, c.lines <:+: ls ∧ (∀ l ∈ c.lines, isBlankLine l.text = false) ∧ read = readChunk c := by
  have hbody : ∀ part, part <:+: ls → read ∈ readBody part →
      ∃ c : Chunk, c.lines <:+: ls ∧ (∀ l ∈ c.lines, isBlankLine l.text = false) ∧ read = readChunk c := by
    intro part hpart hmem
    obtain ⟨c, hc, rfl⟩ := List.mem_map.1 hmem
    refine ⟨c, (Chunk.lines_infix_of_mem_ofLines hc).trans hpart, ?_, rfl⟩
    intro l hl
    have hinked : l ∈ part.filter fun l => !isBlankLine l.text := by
      rw [← Chunk.flatMap_lines_ofLines]
      exact List.mem_flatMap.2 ⟨c, hc, hl⟩
    simpa using (List.mem_filter.1 hinked).2
  cases ls with
  | nil => cases hread
  | cons first rest =>
    rw [readLines_cons] at hread
    split at hread
    · next htitle =>
      rcases List.mem_cons.1 hread with rfl | hmem
      · exact .inl ⟨first, List.mem_cons_self, htitle, rfl⟩
      · exact .inr (hbody rest (List.suffix_cons first rest).isInfix hmem)
    · exact .inr (hbody (first :: rest) List.infix_rfl hread)

/-- Every block but the title is read from a chunk of consecutive lines. -/
theorem mem_readLines_cases {ls : List NumberedLine} (h : IsConsecutive ls) {read : Reading Block}
    (hread : read ∈ readLines ls) :
    (∃ l, read = readTitle l) ∨ ∃ c : Chunk, IsConsecutive c.lines ∧ read = readChunk c := by
  rcases exists_chunk_of_mem_readLines hread with ⟨l, _, _, hvalue⟩ | ⟨c, hlines, _, hvalue⟩
  · exact .inl ⟨l, hvalue⟩
  · exact .inr ⟨c, h.part hlines, hvalue⟩

theorem start_le_stop_of_mem_readLines {ls : List NumberedLine} (h : IsConsecutive ls) {read : Reading Block}
    (hread : read ∈ readLines ls) : read.value.range.start.line ≤ read.value.range.stop.line := by
  apply start_le_stop_of_lineNumbers_ne_nil
  rcases mem_readLines_cases h hread with ⟨l, rfl⟩ | ⟨c, hc, rfl⟩
  · rw [lineNumbers_readTitle]
    exact List.cons_ne_nil _ _
  · rw [lineNumbers_readChunk hc]
    exact mt List.map_eq_nil_iff.1 c.lines_ne_nil

/-- A list is read from lines of its own. -/
theorem exists_readList_of_mem_readLines {ls : List NumberedLine} (h : IsConsecutive ls) {read : Reading Block}
    (hread : read ∈ readLines ls) {range : Range} {items : List ListItem} (hlist : read.value = .list range items) :
    ∃ first rest, IsConsecutive (first :: rest) ∧ .list range items = (readList first rest).value := by
  rcases mem_readLines_cases h hread with ⟨l, rfl⟩ | ⟨c, hc, rfl⟩
  · cases hlist
  · cases c with
    | heading level line => cases hlist
    | paragraph first rest =>
      have hparagraph : (readParagraph first rest).value = .list range items := hlist
      rcases readParagraph_cases first rest with hvalue | ⟨id, clause, _, hvalue⟩
      · cases hvalue.symm.trans hparagraph
      · cases hvalue.symm.trans hparagraph
    | list first rest => exact ⟨first, rest, hc, hlist.symm⟩

/-- The items of a list share its lines out among them. -/
theorem items_partition_list {first : NumberedLine} {rest : List NumberedLine} (h : IsConsecutive (first :: rest))
    {range : Range} {items : List ListItem} (hlist : .list range items = (readList first rest).value) :
    (∀ item ∈ items, item.range.start.line ≤ item.range.stop.line) ∧
      items.Pairwise (fun a b => a.range.stop.line < b.range.start.line) ∧
      ∀ n, (∃ item ∈ items, n ∈ item.range.lineNumbers) ↔ n ∈ range.lineNumbers := by
  obtain ⟨hrange, hitems⟩ := Block.list.inj hlist
  rw [List.map_map] at hitems
  have hnumbers : (first :: rest).map NumberedLine.number = range.lineNumbers := by
    rw [hrange]
    exact (h.lineNumbers_rangeBetween first.inkStart).symm
  have hlines : items.flatMap (fun item => item.range.lineNumbers) = range.lineNumbers := by
    rw [← hnumbers, ← flatMap_lineNumbers_items h, hitems]
    rfl
  have hitem : ∀ item ∈ items, item.range.start.line ≤ item.range.stop.line := by
    intro item hmem
    rw [hitems] at hmem
    obtain ⟨itemLines, hitemLines, rfl⟩ := List.mem_map.1 hmem
    apply start_le_stop_of_lineNumbers_ne_nil
    have hnumbered := lineNumbers_readItem h hitemLines
    exact hnumbered ▸ List.cons_ne_nil _ _
  refine ⟨hitem, ?_, ?_⟩
  · apply pairwise_of_flatMap_lineNumbers hitem
    rw [hlines]
    exact List.pairwise_lt_range'
  · intro n
    rw [← List.mem_flatMap, hlines]

/-! ## All blocks of a document -/

section Blocks

variable (text : String)

theorem start_le_stop_of_mem_blocks {block : Block} (h : block ∈ (Document.ofText text).blocks) :
    block.range.start.line ≤ block.range.stop.line := by
  obtain ⟨read, hread, rfl⟩ := List.mem_map.1 h
  exact start_le_stop_of_mem_readLines (isConsecutive_numbered _) hread

theorem flatMap_lineNumbers_blocks :
    (Document.ofText text).blocks.flatMap (fun block => block.range.lineNumbers) =
      inkedNumbers (numbered (Text.lines text)) := by
  rw [← flatMap_lineNumbers_readLines (isConsecutive_numbered _)]
  exact List.flatMap_map _ _ _

theorem inkedNumbers_pairwise (ls : List Line) : (inkedNumbers (numbered ls)).Pairwise (· < ·) := by
  have hall : ((numbered ls).map NumberedLine.number).Pairwise (· < ·) := by
    rw [map_number_numbered]
    exact List.pairwise_lt_range
  exact hall.sublist (List.filter_sublist.map _)

theorem mem_inkedNumbers_iff (ls : List Line) (n : Nat) :
    n ∈ inkedNumbers (numbered ls) ↔ ∃ line, ls[n]? = some line ∧ isBlankLine line = false := by
  unfold inkedNumbers
  constructor
  · intro hn
    obtain ⟨l, hl, rfl⟩ := List.mem_map.1 hn
    obtain ⟨hmem, hinked⟩ := List.mem_filter.1 hl
    exact ⟨l.text, (mem_numbered_iff _ l).1 hmem, by simpa using hinked⟩
  · rintro ⟨line, hline, hinked⟩
    refine List.mem_map.2 ⟨⟨n, line⟩, List.mem_filter.2 ⟨(mem_numbered_iff _ _).2 hline, ?_⟩, rfl⟩
    rw [hinked]
    rfl

/-- Each block ends before the next one starts. -/
theorem pairwise_blocks :
    (Document.ofText text).blocks.Pairwise fun a b => a.range.stop.line < b.range.start.line := by
  apply pairwise_of_flatMap_lineNumbers fun block => start_le_stop_of_mem_blocks text
  rw [flatMap_lineNumbers_blocks]
  exact inkedNumbers_pairwise _

end Blocks

/-- The blocks of a document share its lines out among them: each block has at least one line, each ends before the
next one starts, and together they have just the lines that are not blank.  In the same way the items of a list have
just the lines of the list. -/
theorem blocks_partition_lines (text : String) :
    let document := Document.ofText text
    (∀ block ∈ document.blocks, block.range.start.line ≤ block.range.stop.line) ∧
      document.blocks.Pairwise (fun a b => a.range.stop.line < b.range.start.line) ∧
      (∀ n, (∃ block ∈ document.blocks, n ∈ block.range.lineNumbers) ↔
        ∃ line, (Text.lines text)[n]? = some line ∧ isBlankLine line = false) ∧
      ∀ range items, .list range items ∈ document.blocks →
        (∀ item ∈ items, item.range.start.line ≤ item.range.stop.line) ∧
          items.Pairwise (fun a b => a.range.stop.line < b.range.start.line) ∧
          ∀ n, (∃ item ∈ items, n ∈ item.range.lineNumbers) ↔ n ∈ range.lineNumbers := by
  intro document
  refine ⟨fun block => start_le_stop_of_mem_blocks text, pairwise_blocks text, ?_, ?_⟩
  · intro n
    rw [← List.mem_flatMap, flatMap_lineNumbers_blocks, mem_inkedNumbers_iff]
  · intro range items hmem
    obtain ⟨read, hread, hlist⟩ := List.mem_map.1 hmem
    obtain ⟨first, rest, hown, hvalue⟩ :=
      exists_readList_of_mem_readLines (isConsecutive_numbered _) hread hlist
    exact items_partition_list hown hvalue

end Document

end Traceability
