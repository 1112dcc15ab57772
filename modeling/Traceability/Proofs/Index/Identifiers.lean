import Traceability.Proofs.Extraction.Sources
import Traceability.Proofs.Index.Findings
set_option autoImplicit false

/-!
# Ids of definitions

Whatever a text defines has an id, which stands in the text where its range says, and no two ids of a text stand at the
same place.  An index can also be told of definitions without an id, but none comes from a text.
-/

namespace Traceability

open Text

namespace Extraction

open Document

/-- No text gives a finding that a definition has no id. -/
theorem missingIdentifier_not_mem_ofText (uri text : String) (remarkUri : Option String) (range : Range) :
    .missingIdentifier range ∉ (ofText uri text remarkUri).findings := by
  intro hmem
  have hfindings : (ofText uri text remarkUri).findings = _ := findings_ofDocument uri _ remarkUri
  rw [hfindings] at hmem
  rcases List.mem_append.1 hmem with hfault | hmem
  · obtain ⟨fault, _, heq⟩ := List.mem_map.1 hfault
    cases congrArg Finding.category heq
  · rcases List.mem_append.1 hmem with hblock | hclosing
    · obtain ⟨⟨before, block⟩, he, hfound⟩ := List.mem_flatMap.1 hblock
      have hfinds := finds_findingsAt he
      simp only at hfound
      generalize findingsAt before block = group at hfinds hfound
      cases hfinds with
      | title | heading | sentence | agreeing => cases hfound
      | ambiguous level range phrases h =>
        have hmessage := congrArg Finding.message (List.mem_singleton.1 hfound)
        simp [Finding.missingIdentifier, Finding.missingIdentifierMessage,
          Finding.multipleInformalIdentifiers] at hmessage
      | differing range id clause s hs h => cases congrArg Finding.category (List.mem_singleton.1 hfound)
      | list range items =>
        obtain ⟨s, _, _, heq⟩ := mem_misplacements_iff.1 hfound
        have hmessage := congrArg Finding.message heq
        simp [Finding.missingIdentifier, Finding.missingIdentifierMessage, Finding.linkPlacement] at hmessage
    · unfold closingFindings at hclosing
      split at hclosing
      · cases congrArg Finding.category (List.mem_singleton.1 hclosing)
      · cases hclosing

end Extraction

namespace Index

/-- Nor does any file, of whatever kind. -/
theorem missingIdentifier_not_mem_recordOf (x : Index) (uri text : String) (range : Range) :
    .missingIdentifier range ∉ (x.recordOf uri text).findings := by
  rw [recordOf_eq]
  unfold contribution extract
  split
  · exact Extraction.missingIdentifier_not_mem_ofText uri text _ range
  · exact List.not_mem_nil

theorem missingIdentifier_not_mem_analyze (x : Index) (uri text : String) (range : Range) :
    .missingIdentifier range ∉ (x.analyze uri text).2 := by
  have hcategory : (Finding.missingIdentifier range).category = .structuralPlacement := rfl
  intro hmem
  rw [analyze_snd] at hmem
  rcases List.mem_append.1 hmem with hown | hothers
  · rcases List.mem_append.1 hown with hrecord | hduplicate
    · exact x.missingIdentifier_not_mem_recordOf uri text range hrecord
    · cases hcategory.symm.trans (category_of_mem_duplicates hduplicate)
  · split at hothers
    · have hcross := isCrossFile_of_mem_consistency hothers
      rw [hcategory] at hcross
      cases hcross
    · cases hothers

/-- The id of each definition of a document is not empty and is what stands at its place on one line of the text.  The
ids stand one behind the other.  So neither analysing nor loading a file ever finds a definition without an id. -/
theorem ids_are_written (uri text : String) (remarkUri : Option String) :
    let definitions := (Extraction.ofText uri text remarkUri).definitions
    (∀ d ∈ definitions, d.id ≠ "" ∧ d.idRange.start.line = d.idRange.stop.line ∧
        ∃ line, (lines text)[d.idRange.start.line]? = some line ∧
          slice? line (byteOffset line d.idRange.start.character) (byteOffset line d.idRange.stop.character) =
            some d.id.toList) ∧
      definitions.Pairwise (fun d e => d.idRange.start < e.idRange.start ∧ d.idRange.stop < e.idRange.start) ∧
      ∀ (x : Index) (range : Range), .missingIdentifier range ∉ (x.analyze uri text).2 ∧
        ∀ record ∈ (x.load uri text).file? uri, .missingIdentifier range ∉ record.findings := by
  intro definitions
  have hwritten : ∀ d ∈ definitions, (Document.Phrase.mk d.id.toList d.idRange).IsWrittenIn (lines text) :=
    fun d hd => Extraction.isWrittenIn_of_mem_definitions hd
  refine ⟨?_, ?_, fun x range => ⟨x.missingIdentifier_not_mem_analyze uri text range, ?_⟩⟩
  · intro d hd
    exact ⟨Extraction.id_ne_empty_of_mem_definitions uri text remarkUri hd, (hwritten d hd).line_eq,
      (hwritten d hd).slice?_eq⟩
  · refine (Extraction.definitions_pairwise uri text remarkUri).imp_of_mem ?_
    intro d e hd _ hlt
    have hstop : d.idRange.start.line = d.idRange.stop.line := (hwritten d hd).line_eq
    exact ⟨Position.lt_of_line_lt hlt, Position.lt_of_line_lt (hstop ▸ hlt)⟩
  · intro record hrecord
    rw [file?_load_self] at hrecord
    obtain rfl := Option.some.inj hrecord
    exact x.missingIdentifier_not_mem_recordOf uri text range

end Index

end Traceability
