import Traceability.Extraction
import Traceability.Proofs.Document.Ranges
set_option autoImplicit false

/-!
# Ranges of what a document contributes

The definitions, references and findings of a document take their ranges from its blocks and its syntax faults, so all
of them stand in the text.  The one finding that is about no part of the document, its missing subject, is shown at the
start.
-/

namespace Traceability

open Text Document

/-! ## Findings and ranges -/

namespace Finding

/-- The finding and the places to which its remarks point are in the text. -/
structure IsIn (ls : List Line) (f : Finding) : Prop where
  range : f.range.IsIn ls
  remarks : ∀ remark ∈ f.remarks, ∀ location ∈ remark.location, location.range.IsIn ls

/-- The finding is about one of the ranges, and points nowhere else. -/
structure IsAbout (ranges : List Range) (f : Finding) : Prop where
  range_mem : f.range ∈ ranges
  remarks_eq : f.remarks = []

variable {ls : List Line} {ranges : List Range} {f : Finding}

theorem IsAbout.mono {others : List Range} (h : f.IsAbout ranges) (hsubset : ranges ⊆ others) : f.IsAbout others :=
  ⟨hsubset h.range_mem, h.remarks_eq⟩

theorem IsAbout.isIn (h : f.IsAbout ranges) (hranges : ∀ r ∈ ranges, r.IsIn ls) : f.IsIn ls := by
  refine ⟨hranges f.range h.range_mem, ?_⟩
  rw [h.remarks_eq]
  exact fun remark hremark => absurd hremark List.not_mem_nil

/-- The finding for a syntax fault is shown where the fault is, and so is its remark. -/
theorem isIn_toFinding {fault : SyntaxFault} (h : fault.range.IsIn ls) (remarkUri : Option String) :
    (fault.toFinding remarkUri).IsIn ls := by
  refine ⟨h, ?_⟩
  intro remark hremark location hlocation
  obtain ⟨uri, _, rfl⟩ := Option.map_eq_some_iff.1 (Option.mem_toList.1 hremark)
  obtain rfl := Option.some.inj hlocation
  exact h

theorem isIn_missingSubject (text : String) : missingSubject.IsIn (lines text) := by
  refine ⟨isIn_origin text, ?_⟩
  intro remark hremark location hlocation
  obtain rfl := List.mem_singleton.1 hremark
  cases hlocation

end Finding

namespace Extraction

/-! ## Definitions and references -/

section Contributions

variable {uri : String} {b : Block}

theorem ranges_of_mem_definitionsOf {d : Definition} (h : d ∈ definitionsOf uri b) :
    d.range ∈ b.ranges ∧ d.idRange ∈ b.ranges := by
  unfold definitionsOf at h
  split at h
  · obtain rfl := List.mem_singleton.1 h
    exact ⟨List.mem_cons_self, List.mem_cons_of_mem _ List.mem_cons_self⟩
  · next phrase =>
    obtain rfl := List.mem_singleton.1 h
    have hphrase : phrase.range ∈ [phrase].map Phrase.range := List.mem_singleton_self _
    exact ⟨List.mem_cons_of_mem _ hphrase, List.mem_cons_of_mem _ hphrase⟩
  · cases h

theorem map_range_subset_ranges (range : Range) (items : List ListItem) :
    items.map ListItem.range ⊆ (Block.list range items).ranges := by
  intro r hr
  obtain ⟨item, hitem, rfl⟩ := List.mem_map.1 hr
  refine List.mem_cons_of_mem _ (List.mem_flatMap.2 ⟨item, hitem, ?_⟩)
  cases item with
  | text range => exact List.mem_cons_self
  | link range targets => exact List.mem_cons_self

theorem range_of_mem_referencesOfItem {item : ListItem} {r : Reference} (h : r ∈ referencesOfItem uri item) :
    r.range = item.range := by
  cases item with
  | text range => cases h
  | link range targets =>
    obtain ⟨id, _, rfl⟩ := List.mem_map.1 h
    rfl

theorem range_of_mem_referencesOf {r : Reference} (h : r ∈ referencesOf uri b) : r.range ∈ b.ranges := by
  unfold referencesOf at h
  split at h
  · obtain ⟨item, hitem, hr⟩ := List.mem_flatMap.1 h
    rw [range_of_mem_referencesOfItem hr]
    exact map_range_subset_ranges _ _ (List.mem_map_of_mem hitem)
  · cases h

end Contributions

/-! ## Findings of the walk -/

section Walk

variable {f : Finding}

theorem isAbout_of_mem_itemFindings {attached : Bool} {items : List ListItem} (h : f ∈ itemFindings attached items) :
    f.IsAbout (items.map ListItem.range) := by
  fun_induction itemFindings attached items with
  | case1 => cases h
  | case2 _ range rest ih => exact (ih h).mono (List.subset_cons_self _ _)
  | case3 range targets rest ih => exact (ih h).mono (List.subset_cons_self _ _)
  | case4 range targets rest ih =>
    rcases List.mem_cons.1 h with rfl | h
    · exact ⟨List.mem_cons_self, rfl⟩
    · exact (ih h).mono (List.subset_cons_self _ _)

theorem isAbout_of_mem_mismatch {subject : Option (List Char)} {clause : Option Phrase}
    (h : f ∈ mismatch subject clause) : f.IsAbout (clause.map Phrase.range).toList := by
  unfold mismatch at h
  split at h
  · split at h
    · cases h
    · obtain rfl := List.mem_singleton.1 h
      exact ⟨List.mem_singleton_self _, rfl⟩
  · cases h

/-- A finding of the walk is about a range of one of the blocks, or about the missing subject. -/
theorem isAbout_of_mem_walk {subject : Option (List Char)} {attached : Bool} {blocks : List Block}
    (h : f ∈ walk subject attached blocks) : f = .missingSubject ∨ f.IsAbout (blocks.flatMap Block.ranges) := by
  have hlater {block : Block} {rest : List Block} (h : f = .missingSubject ∨ f.IsAbout (rest.flatMap Block.ranges)) :
      f = .missingSubject ∨ f.IsAbout ((block :: rest).flatMap Block.ranges) :=
    h.imp_right fun h => h.mono (List.subset_append_right _ _)
  have hhere {block : Block} {rest : List Block} (h : f.IsAbout block.ranges) :
      f = .missingSubject ∨ f.IsAbout ((block :: rest).flatMap Block.ranges) :=
    .inr (h.mono (List.subset_append_left _ _))
  fun_induction walk subject attached blocks with
  | case1 => exact .inl (List.mem_singleton.1 h)
  | case2 => cases h
  | case3 subject attached rest range phrases ih => exact hlater (ih h)
  | case4 subject attached level range phrases rest ih =>
    rcases List.mem_append.1 h with h | h
    · split at h
      · obtain rfl := List.mem_singleton.1 h
        exact hhere ⟨List.mem_cons_self, rfl⟩
      · cases h
    · exact hlater (ih h)
  | case5 subject attached range id clause rest ih =>
    rcases List.mem_append.1 h with h | h
    · have hclause : (clause.map Phrase.range).toList ⊆ (Block.requirement range id clause).ranges :=
        fun r hr => List.mem_cons_of_mem _ (List.mem_cons_of_mem _ hr)
      exact hhere ((isAbout_of_mem_mismatch h).mono hclause)
    · exact hlater (ih h)
  | case6 subject attached range rest ih => exact hlater (ih h)
  | case7 subject attached range items rest ih =>
    rcases List.mem_append.1 h with h | h
    · exact hhere ((isAbout_of_mem_itemFindings h).mono (map_range_subset_ranges range items))
    · exact hlater (ih h)

end Walk

/-! ## All ranges of a document -/

/-- Every range that is made of a text stands in it: those of the blocks of the document and of what belongs to them,
those of its definitions and references, and those of its findings and their remarks.  What belongs to a block stands
inside of it. -/
theorem ranges_isIn_lines (uri text : String) (remarkUri : Option String) :
    let extraction := ofText uri text remarkUri
    (∀ block ∈ (Document.ofText text).blocks, (∀ r ∈ block.ranges, r.IsIn (lines text)) ∧ block.IsNested) ∧
      (∀ d ∈ extraction.definitions, d.range.IsIn (lines text) ∧ d.idRange.IsIn (lines text)) ∧
      (∀ r ∈ extraction.references, r.range.IsIn (lines text)) ∧
      ∀ f ∈ extraction.findings, f.IsIn (lines text) := by
  intro extraction
  have hblocks : ∀ block ∈ (Document.ofText text).blocks, block.IsIn (lines text) := by
    intro block hblock
    obtain ⟨read, hread, rfl⟩ := List.mem_map.1 hblock
    exact (isIn_of_mem_readLines hread).1
  have hranges : ∀ r ∈ (Document.ofText text).blocks.flatMap Block.ranges, r.IsIn (lines text) := by
    intro r hr
    obtain ⟨block, hblock, hr⟩ := List.mem_flatMap.1 hr
    exact (hblocks block hblock).1 r hr
  refine ⟨hblocks, ?_, ?_, ?_⟩
  · intro d hd
    obtain ⟨block, hblock, hd⟩ := List.mem_flatMap.1 hd
    obtain ⟨hrange, hidRange⟩ := ranges_of_mem_definitionsOf hd
    exact ⟨(hblocks block hblock).1 _ hrange, (hblocks block hblock).1 _ hidRange⟩
  · intro r hr
    obtain ⟨block, hblock, hr⟩ := List.mem_flatMap.1 hr
    exact (hblocks block hblock).1 _ (range_of_mem_referencesOf hr)
  · intro f hf
    rcases List.mem_append.1 hf with hf | hf
    · obtain ⟨fault, hfault, rfl⟩ := List.mem_map.1 hf
      obtain ⟨read, hread, hfault⟩ := List.mem_flatMap.1 hfault
      exact Finding.isIn_toFinding ((isIn_of_mem_readLines hread).2 fault hfault) remarkUri
    · rcases isAbout_of_mem_walk hf with rfl | habout
      · exact Finding.isIn_missingSubject text
      · exact habout.isIn hranges

end Extraction

end Traceability
