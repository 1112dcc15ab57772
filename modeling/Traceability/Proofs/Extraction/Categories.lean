import Traceability.Index.Basic
set_option autoImplicit false

/-!
# Kinds of findings

What is wrong with a file by itself is a syntax fault, a misplaced or ambiguous declaration, or a wrong subject.
Repetitions, and references and definitions that lead nowhere, are found by an index alone.
-/

namespace Traceability

open Document

/-- The categories of what can be wrong with a file by itself. -/
def Category.internal : List Category := [.syntaxError, .structuralPlacement, .subjectMismatch]

theorem Category.isCrossFile_of_mem_internal : ∀ c ∈ internal, c.isCrossFile = false := by
  decide

namespace Extraction

theorem category_of_mem_itemFindings {attached : Bool} {items : List ListItem} {f : Finding}
    (h : f ∈ itemFindings attached items) : f.category = .structuralPlacement := by
  fun_induction itemFindings attached items with
  | case1 => cases h
  | case2 _ range rest ih => exact ih h
  | case3 range targets rest ih => exact ih h
  | case4 range targets rest ih =>
    rcases List.mem_cons.1 h with rfl | h
    · rfl
    · exact ih h

theorem category_of_mem_mismatch {subject : Option (List Char)} {clause : Option Phrase} {f : Finding}
    (h : f ∈ mismatch subject clause) : f.category = .subjectMismatch := by
  unfold mismatch at h
  split at h
  · split at h
    · cases h
    · obtain rfl := List.mem_singleton.1 h
      rfl
  · cases h

theorem category_of_mem_walk {subject : Option (List Char)} {attached : Bool} {blocks : List Block} {f : Finding}
    (h : f ∈ walk subject attached blocks) : f.category ∈ Category.internal := by
  fun_induction walk subject attached blocks with
  | case1 =>
    obtain rfl := List.mem_singleton.1 h
    decide
  | case2 => cases h
  | case3 subject attached rest range phrases ih => exact ih h
  | case4 subject attached level range phrases rest ih =>
    rcases List.mem_append.1 h with h | h
    · split at h
      · obtain rfl := List.mem_singleton.1 h
        exact List.mem_cons_of_mem _ List.mem_cons_self
      · cases h
    · exact ih h
  | case5 subject attached range id clause rest ih =>
    rcases List.mem_append.1 h with h | h
    · rw [category_of_mem_mismatch h]
      decide
    · exact ih h
  | case6 subject attached range rest ih => exact ih h
  | case7 subject attached range items rest ih =>
    rcases List.mem_append.1 h with h | h
    · rw [category_of_mem_itemFindings h]
      decide
    · exact ih h

theorem category_of_mem_ofText {uri text : String} {remarkUri : Option String} {f : Finding}
    (h : f ∈ (ofText uri text remarkUri).findings) : f.category ∈ Category.internal := by
  rcases List.mem_append.1 h with h | h
  · obtain ⟨fault, _, rfl⟩ := List.mem_map.1 h
    exact List.mem_cons_self
  · exact category_of_mem_walk h

end Extraction

/-- No text by itself gives a finding that depends on other texts. -/
theorem Index.category_of_mem_extract (x : Index) {uri text : String} {f : Finding}
    (h : f ∈ (x.extract uri text).findings) : f.category ∈ Category.internal := by
  unfold extract at h
  split at h
  · exact Extraction.category_of_mem_ofText h
  · cases h

end Traceability
