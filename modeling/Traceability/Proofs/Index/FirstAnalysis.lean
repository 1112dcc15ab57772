import Traceability.Proofs.Index.Findings
set_option autoImplicit false

/-!
# What the analysis of a file tells

The findings of a file come in three parts: what is wrong with its text by itself, its repeated ids, and what depends on
other files.  Only the last part is ever held back, and the kinds of its findings are those that count as cross-file.
-/

namespace Traceability.Index

section Own

variable {x : Index} {uri text : String} {f : Finding}

/-- The first two parts hold no cross-file findings. -/
theorem isCrossFile_of_mem_own (hf : f ∈ (x.recordOf uri text).findings ++ (x.load uri text).duplicates uri) :
    f.category.isCrossFile = false := by
  rcases List.mem_append.1 hf with hf | hf
  · exact Category.isCrossFile_of_mem_internal _ (category_of_mem_recordOf hf)
  · rw [category_of_mem_duplicates hf]
    rfl

end Own

/-- What is held back are the cross-file findings and no others. -/
theorem filter_not_isCrossFile (x : Index) (uri text : String) :
    ((x.recordOf uri text).findings ++ (x.load uri text).duplicates uri ++ (x.load uri text).consistency uri).filter
        (fun f => !f.category.isCrossFile) =
      (x.recordOf uri text).findings ++ (x.load uri text).duplicates uri := by
  have hown : ((x.recordOf uri text).findings ++ (x.load uri text).duplicates uri).filter
      (fun f => !f.category.isCrossFile) = (x.recordOf uri text).findings ++ (x.load uri text).duplicates uri := by
    rw [List.filter_eq_self]
    intro f hf
    rw [isCrossFile_of_mem_own hf]
    rfl
  have hconsistency : ((x.load uri text).consistency uri).filter (fun f => !f.category.isCrossFile) = [] := by
    rw [List.filter_eq_nil_iff]
    intro f hf
    rw [isCrossFile_of_mem_consistency hf]
    exact Bool.false_ne_true
  rw [List.filter_append, hown, hconsistency, List.append_nil]

/-- Analysing a file leaves the index as loading it does.  It tells all findings that the file has from then on if the
project is known or the file was seen before, and if not, all of them but the cross-file ones. -/
theorem analyze_eq_load_and_gate (x : Index) (uri text : String) :
    (x.analyze uri text).1 = x.load uri text ∧
      ∃ findings, (x.analyze uri text).1.revalidate uri = some findings ∧
        (x.analyze uri text).2 =
          if x.phase = .ready ∨ (x.file? uri).isSome = true then findings
          else findings.filter fun f => !f.category.isCrossFile := by
  rw [analyze_fst]
  refine ⟨rfl, _, x.revalidate_load uri text, ?_⟩
  rw [analyze_snd, filter_not_isCrossFile]
  split
  · rfl
  · rw [List.append_nil]

/-- A repeated id is told at once, a requirement that nothing implements only at the second time. -/
example :
    let document := "# *x*\n\n**A** The x **shall** go.\n"
    let x := (empty {}).load "a.shalldn" document
    let y := (x.analyze "b.shalldn" document).1
    (x.analyze "b.shalldn" document).2.map Finding.category = [.duplicateIdentifier] ∧
      (y.analyze "b.shalldn" document).2.map Finding.category = [.duplicateIdentifier, .noImplementation] := by
  decide +kernel

end Traceability.Index
