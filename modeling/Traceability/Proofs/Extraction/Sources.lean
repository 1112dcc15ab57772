import Traceability.Proofs.Document.Ranges
import Traceability.Proofs.Extraction.Declarations
import Traceability.Proofs.Extraction.Definitions
import Traceability.Proofs.Text.Offsets
set_option autoImplicit false

/-!
# Ids as they are written

The id of a definition is what the text says at its place: cut out of its line at the columns of its range, the line
gives the id.  It is emphasised text between two markers, and escapes in it are left as they are written.
-/

namespace Traceability

open Text

namespace Document

/-- The phrase stands on one line of the text, and the columns of its range cut it out of this line. -/
structure Phrase.IsWrittenIn (ls : List Line) (phrase : Phrase) : Prop where
  line_eq : phrase.range.start.line = phrase.range.stop.line
  slice?_eq : ∃ line, ls[phrase.range.start.line]? = some line ∧
    slice? line (byteOffset line phrase.range.start.character) (byteOffset line phrase.range.stop.character) =
      some phrase.text

/-- The phrase of a span is the text between its markers. -/
theorem isWrittenIn_phrase {ls : List Line} {s : LocatedSpan} (hline : s.line ∈ numbered ls) (h : s.IsWritten) :
    s.phrase.IsWrittenIn ls := by
  refine ⟨rfl, s.line.text, (mem_numbered_iff ls s.line).1 hline, ?_⟩
  obtain ⟨before, after, htext, hstart⟩ := h
  rw [Nat.zero_add] at hstart
  have hsplit : s.line.text = (before ++ s.span.kind.marker) ++ s.span.text ++ (s.span.kind.marker ++ after) := by
    rw [htext]
    simp only [Span.source, List.append_assoc]
  have hinner : s.span.innerStart = (before ++ s.span.kind.marker).length := by
    rw [List.length_append, ← hstart]
    rfl
  have houter : s.span.innerStop = (before ++ s.span.kind.marker ++ s.span.text).length := by
    rw [List.length_append, ← hinner]
    rfl
  have hslice := slice?_column hsplit
  rw [← hinner, ← houter] at hslice
  exact hslice

theorem isWrittenIn_of_mem_spansOfLine {ls : List Line} {c : Cursor} (hline : c.line ∈ numbered ls) {s : LocatedSpan}
    (h : s ∈ (spansOfLine c).value) : s.phrase.IsWrittenIn ls := by
  obtain ⟨heq, hwritten, _⟩ := of_mem_spansOfLine h
  exact isWrittenIn_phrase (heq ▸ hline) hwritten

end Document

namespace Extraction

open Document

/-- What a block defines is written as one of its phrases. -/
theorem exists_phrase_of_declares {uri text : String} {block : Block} (hblock : block ∈ (Document.ofText text).blocks)
    {d : Definition} (h : Declares uri block d) :
    ∃ phrase : Phrase, phrase.IsWrittenIn (lines text) ∧ d.id = String.ofList phrase.text ∧
      d.idRange = phrase.range := by
  obtain ⟨read, hread, rfl⟩ := List.mem_map.1 hblock
  rcases exists_chunk_of_mem_readLines hread with ⟨l, _, _, rfl⟩ | ⟨c, hlines, _, rfl⟩
  · cases h
  · cases c with
    | heading level line =>
      have hline : line ∈ numbered (lines text) := hlines.subset (List.mem_singleton_self line)
      have hvalue : (readChunk (.heading level line)).value =
          .heading level (readContent line).value.1 (readContent line).value.2 := rfl
      rw [hvalue] at h
      generalize hphrases : (readContent line).value.2 = phrases at h
      cases h with
      | heading level range phrase =>
        have hmem : phrase ∈ (readContent line).value.2 := by
          rw [hphrases]
          exact List.mem_singleton_self phrase
        obtain ⟨s, hs, rfl⟩ := List.mem_map.1 hmem
        exact ⟨_, isWrittenIn_of_mem_spansOfLine hline (List.mem_filter.1 hs).1, rfl, rfl⟩
    | paragraph first rest =>
      have hvalue : (readChunk (.paragraph first rest)).value = (readParagraph first rest).value := rfl
      rw [hvalue] at h
      rcases readParagraph_spans_cases first rest with hsentence | ⟨id, others, hspans, _, hrequirement⟩
      · rw [hsentence] at h
        cases h
      · have hwritten : id.phrase.IsWrittenIn (lines text) := by
          have hid : id ∈ (spansOfLines ((first :: rest).map fun l => ⟨l, l.inkStart⟩)).value := by
            rw [hspans]
            exact List.mem_cons_self
          obtain ⟨c, hc, hmem⟩ := List.mem_flatMap.1 hid
          obtain ⟨l, hl, rfl⟩ := List.mem_map.1 hc
          exact isWrittenIn_of_mem_spansOfLine (hlines.subset hl) hmem
        rcases hrequirement with hnone | ⟨_, _, clause, hsome, _⟩
        · rw [hnone] at h
          cases h
          exact ⟨_, hwritten, rfl, rfl⟩
        · rw [hsome] at h
          cases h
          exact ⟨_, hwritten, rfl, rfl⟩
    | list first rest => cases h

/-- The id of a definition is written where its range says. -/
theorem isWrittenIn_of_mem_definitions {uri text : String} {remarkUri : Option String} {d : Definition}
    (h : d ∈ (ofText uri text remarkUri).definitions) :
    (Phrase.mk d.id.toList d.idRange).IsWrittenIn (lines text) := by
  obtain ⟨block, hblock, hd⟩ := List.mem_flatMap.1 h
  rcases definitionsOf_cases uri block with ⟨_, hnone⟩ | ⟨_, d', hdeclares, hsome⟩
  · rw [hnone] at hd
    cases hd
  · rw [hsome] at hd
    obtain rfl := List.mem_singleton.1 hd
    obtain ⟨phrase, hwritten, hid, hrange⟩ := exists_phrase_of_declares hblock hdeclares
    rw [hid, hrange, String.toList_ofList]
    exact hwritten

end Extraction

end Traceability
