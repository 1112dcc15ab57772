import Traceability.Marker
import Traceability.Proofs.Document.Partition
set_option autoImplicit false

/-!
# What a document defines

A block defines at most one requirement.  Its id is never empty, and it stands on the first line of the block.  Since
no two blocks share a line, no two definitions of a document have their ids at the same place.
-/

namespace Traceability

open Text

/-! ## Emphasised text -/

namespace Document

/-- A single asterisk closes nothing right behind the one that opens, since both together would open bold text. -/
theorem ne_nil_of_breakOnUnescaped_opening {rest text after : List Char}
    (hkind : (Emphasis.opening rest).1 = .italic)
    (h : breakOnUnescaped (Emphasis.opening rest).1.marker (Emphasis.opening rest).2 = some (text, after)) :
    text ≠ [] := by
  rintro rfl
  rw [hkind] at h
  have hsource := breakOnUnescaped_eq_append h
  have hinner : (Emphasis.opening rest).2 = rest := by
    have hmarker := Emphasis.marker_append_opening rest
    rw [hkind] at hmarker
    exact (List.cons.inj hmarker).2
  have hrest : rest = '*' :: after := by
    rw [← hinner, hsource]
    rfl
  rw [hrest] at hkind
  cases hkind

/-- Italic text is never empty. -/
theorem text_ne_nil_of_italic {place : Nat} {line : List Char} {s : Span} (h : s ∈ (spansFrom place line).spans)
    (hkind : s.kind = .italic) : s.text ≠ [] := by
  fun_induction spansFrom place line with
  | case1 => cases h
  | case2 => cases h
  | case3 place _ rest ih => exact ih h
  | case4 place c rest _ _ hc ih => exact ih h
  | case5 => cases h
  | case6 place c rest _ _ hc kind inner _ hinked text after hbreak _ span later ih =>
    rcases List.mem_cons.1 h with rfl | h
    · exact ne_nil_of_breakOnUnescaped_opening hkind hbreak
    · exact ih h
  | case7 place c rest _ _ hc kind inner _ hblank ih => exact ih h

theorem mem_italicPhrases {l : NumberedLine} {place : Nat} {phrase : Phrase}
    (h : phrase ∈ italicPhrases (spansOfLine ⟨l, place⟩).value) :
    phrase.text ≠ [] ∧ phrase.range.start.line = l.number := by
  unfold italicPhrases at h
  obtain ⟨located, hlocated, rfl⟩ := List.mem_map.1 h
  obtain ⟨hspan, hitalic⟩ := List.mem_filter.1 hlocated
  unfold spansOfLine at hspan
  obtain ⟨span, hmem, rfl⟩ := List.mem_map.1 hspan
  have hkind : span.kind = .italic := by
    cases hbold : span.kind with
    | italic => rfl
    | bold => simp [LocatedSpan.isBold, hbold] at hitalic
  exact ⟨text_ne_nil_of_italic hmem hkind, rfl⟩

/-- The id of a requirement stands on the first line of its paragraph. -/
theorem phrase_of_opensRequirement {first : NumberedLine} {id : LocatedSpan} (h : opensRequirement first id = true) :
    id.phrase.text ≠ [] ∧ id.phrase.range.start.line = first.number := by
  unfold opensRequirement at h
  simp only [Bool.and_eq_true, decide_eq_true_iff] at h
  obtain ⟨⟨⟨hline, _⟩, _⟩, hidentifier⟩ := h
  refine ⟨?_, hline⟩
  intro hempty
  have htext : id.span.text = [] := hempty
  rw [htext, isIdentifier_nil] at hidentifier
  cases hidentifier

end Document

namespace Extraction

open Document

/-- A block defines nothing or one requirement, whose id stands on the first line of the block. -/
theorem id_of_mem_definitionsOf_readChunk {uri : String} {c : Chunk} {d : Definition}
    (h : d ∈ definitionsOf uri (readChunk c).value) :
    d.id ≠ "" ∧ d.idRange.start.line = (readChunk c).value.range.start.line := by
  have hid : ∀ text : List Char, text ≠ [] → String.ofList text ≠ "" := by
    intro text htext hempty
    exact htext (by simpa using congrArg String.toList hempty)
  cases c with
  | heading level l =>
    have hphrases : (readChunk (.heading level l)).value =
        .heading level (readContent l).value.1 (readContent l).value.2 := rfl
    rw [hphrases] at h ⊢
    unfold definitionsOf at h
    split at h
    · next hblock => cases hblock
    · next level' range phrase hblock =>
      rw [List.mem_singleton] at h
      subst h
      have hmem : phrase ∈ (readContent l).value.2 := by
        rw [(Block.heading.inj hblock).2.2]
        exact List.mem_singleton_self phrase
      obtain ⟨htext, hline⟩ := mem_italicPhrases hmem
      exact ⟨hid _ htext, hline⟩
    · cases h
  | paragraph first rest =>
    have hparagraph : (readChunk (.paragraph first rest)).value = (readParagraph first rest).value := rfl
    rw [hparagraph] at h ⊢
    rcases readParagraph_cases first rest with hvalue | ⟨id, clause, hopens, hvalue⟩
    · rw [hvalue] at h
      cases h
    · rw [hvalue] at h ⊢
      obtain rfl := List.mem_singleton.1 h
      obtain ⟨htext, hline⟩ := phrase_of_opensRequirement hopens
      exact ⟨hid _ htext, hline⟩
  | list first rest => cases h

theorem definitionsOf_pairwise (uri : String) (block : Block) (R : Definition → Definition → Prop) :
    (definitionsOf uri block).Pairwise R := by
  unfold definitionsOf
  split
  · exact List.pairwise_singleton R _
  · exact List.pairwise_singleton R _
  · exact List.Pairwise.nil

/-- What a block defines is the whole block, or nothing but the id. -/
theorem range_of_mem_definitionsOf {uri : String} {block : Block} {d : Definition} (h : d ∈ definitionsOf uri block) :
    d.range = block.range ∨ d.range = d.idRange := by
  unfold definitionsOf at h
  split at h
  · obtain rfl := List.mem_singleton.1 h
    exact .inl rfl
  · obtain rfl := List.mem_singleton.1 h
    exact .inr rfl
  · cases h

/-! ## Documents -/

section Documents

variable (uri text : String) (remarkUri : Option String)

theorem id_of_mem_definitionsOf {block : Block} (hblock : block ∈ (Document.ofText text).blocks) {d : Definition}
    (h : d ∈ definitionsOf uri block) : d.id ≠ "" ∧ d.idRange.start.line = block.range.start.line := by
  obtain ⟨read, hread, rfl⟩ := List.mem_map.1 hblock
  rcases mem_readLines_cases (isConsecutive_numbered _) hread with ⟨l, rfl⟩ | ⟨c, _, rfl⟩
  · cases h
  · exact id_of_mem_definitionsOf_readChunk h

/-- Whatever a document defines has an id. -/
theorem id_ne_empty_of_mem_definitions {d : Definition} (h : d ∈ (ofText uri text remarkUri).definitions) :
    d.id ≠ "" := by
  obtain ⟨block, hblock, hd⟩ := List.mem_flatMap.1 h
  exact (id_of_mem_definitionsOf uri text hblock hd).1

/-- A definition begins on the line of its id. -/
theorem start_line_of_mem_definitions {d : Definition} (h : d ∈ (ofText uri text remarkUri).definitions) :
    d.range.start.line = d.idRange.start.line := by
  obtain ⟨block, hblock, hd⟩ := List.mem_flatMap.1 h
  rcases range_of_mem_definitionsOf hd with hrange | hrange
  · rw [hrange, (id_of_mem_definitionsOf uri text hblock hd).2]
  · rw [hrange]

/-- The ids of the definitions of a document stand on lines further and further down. -/
theorem definitions_pairwise :
    (ofText uri text remarkUri).definitions.Pairwise fun d e => d.idRange.start.line < e.idRange.start.line := by
  have hdefinitions : (ofText uri text remarkUri).definitions =
      (Document.ofText text).blocks.flatMap (definitionsOf uri) := rfl
  rw [hdefinitions, List.pairwise_flatMap]
  refine ⟨fun block _ => definitionsOf_pairwise uri block _, ?_⟩
  refine (pairwise_blocks text).imp_of_mem ?_
  intro a b ha hb hlt d hd e he
  rw [(id_of_mem_definitionsOf uri text ha hd).2, (id_of_mem_definitionsOf uri text hb he).2]
  exact (start_le_stop_of_mem_blocks text ha).trans_lt hlt

end Documents

end Extraction

end Traceability
