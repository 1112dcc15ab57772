import Traceability.Proofs.Index.Linked
import Traceability.Proofs.Index.Repetitions
set_option autoImplicit false

/-!
# Analysing a text once more

A file that is analysed with the text it already has keeps its record, but what it contributes goes to the end of the
ledgers: it is now the file that was seen last.  Nothing comes of this but that another file may now be the first to
define an id.  So the findings stay as they were, unless the file stood ahead of another one, and then the finding for a
repeated id moves from the other file to this one.
-/

namespace Traceability.Index

/-- The file is the first to define some id that another file defines too. -/
def IsAhead (x : Index) (uri : String) : Prop :=
  ∃ d ∈ x.recorded FileRecord.definitions uri,
    (x.definitions.entries d.id).head? = some d ∧ ∃ e ∈ x.definitions.entries d.id, e.uri ≠ uri

instance (x : Index) (uri : String) : Decidable (x.IsAhead uri) :=
  inferInstanceAs (Decidable (∃ d ∈ x.recorded FileRecord.definitions uri,
    (x.definitions.entries d.id).head? = some d ∧ ∃ e ∈ x.definitions.entries d.id, e.uri ≠ uri))

section Again

variable {x : Index} {uri text : String}

/-! ## Records and ledgers -/

theorem file?_load_again (hfile : x.file? uri = some (x.recordOf uri text)) (other : String) :
    (x.load uri text).file? other = x.file? other := by
  rw [file?_load]
  split
  · next hother => rw [← hother, hfile]
  · rfl

theorem recorded_of_file? {α : Type} (part : FileRecord → List α) (hfile : x.file? uri = some (x.recordOf uri text)) :
    part (x.recordOf uri text) = x.recorded part uri := by
  unfold recorded
  rw [hfile, Option.elim_some]

/-- The definitions of the file go to the end of each list. -/
theorem Coherent.entries_definitions_load_again (h : x.Coherent) (hfile : x.file? uri = some (x.recordOf uri text))
    (id : String) :
    (x.load uri text).definitions.entries id =
      (x.definitions.entries id).filter (fun d => !(d.uri == uri)) ++
        (x.definitions.entries id).filter (·.uri == uri) := by
  rw [h.entries_load_definitions, recorded_of_file? FileRecord.definitions hfile, h.definitions.owned]

/-- So do its references. -/
theorem Coherent.entries_references_load_again (h : x.Coherent) (hfile : x.file? uri = some (x.recordOf uri text))
    (id : String) :
    (x.load uri text).references.entries id =
      (x.references.entries id).filter (fun r => !(r.uri == uri)) ++
        (x.references.entries id).filter (·.uri == uri) := by
  rw [h.entries_load_references, recorded_of_file? FileRecord.references hfile, h.references.owned]

/-- A list with some of its entries moved to the end is empty just if it was. -/
theorem isEmpty_filter_append {α : Type} (p : α → Bool) (entries : List α) :
    (entries.filter (fun e => !p e) ++ entries.filter p).isEmpty = entries.isEmpty := by
  have hperm : (entries.filter (fun e => !p e) ++ entries.filter p).Perm entries := by
    simpa using List.filter_append_perm (fun e => !p e) entries
  exact hperm.isEmpty_eq

theorem Coherent.contains_definitions_load_again (h : x.Coherent)
    (hfile : x.file? uri = some (x.recordOf uri text)) (id : String) :
    (x.load uri text).definitions.contains id = x.definitions.contains id := by
  rw [(h.load uri text).definitions.occupied.contains_eq, h.definitions.occupied.contains_eq,
    h.entries_definitions_load_again hfile, isEmpty_filter_append]

theorem Coherent.contains_references_load_again (h : x.Coherent)
    (hfile : x.file? uri = some (x.recordOf uri text)) (id : String) :
    (x.load uri text).references.contains id = x.references.contains id := by
  rw [(h.load uri text).references.occupied.contains_eq, h.references.occupied.contains_eq,
    h.entries_references_load_again hfile, isEmpty_filter_append]

/-! ## Findings that stay -/

theorem Coherent.consistency_load_again (h : x.Coherent) (hfile : x.file? uri = some (x.recordOf uri text))
    (other : String) : (x.load uri text).consistency other = x.consistency other :=
  consistency_congr (x.options_load uri text) (file?_load_again hfile other)
    (fun r _ => h.contains_definitions_load_again hfile r.id) (fun d _ => h.contains_references_load_again hfile d.id)

/-- A file that is ahead of no other one gives way to none at the head of any list. -/
theorem Coherent.head?_load_again (h : x.Coherent) (hfile : x.file? uri = some (x.recordOf uri text))
    (hbehind : ¬ x.IsAhead uri) (id : String) :
    ((x.load uri text).definitions.entries id).head? = (x.definitions.entries id).head? := by
  rw [h.entries_definitions_load_again hfile]
  cases hentries : x.definitions.entries id with
  | nil => rfl
  | cons first rest =>
    by_cases hfirst : first.uri = uri
    · have hmem : first ∈ x.definitions.entries id := by
        rw [hentries]
        exact List.mem_cons_self
      obtain ⟨hrecorded, hid⟩ := (h.definitions.mem_entries_iff id first).1 hmem
      have hall : ∀ e ∈ first :: rest, e.uri = uri := by
        intro e he
        by_contra hne
        apply hbehind
        refine ⟨first, hfirst ▸ hrecorded, ?_, e, ?_, hne⟩
        · rw [hid, hentries, List.head?_cons]
        · rw [hid, hentries]
          exact he
      have hothers : (first :: rest).filter (fun d => !(d.uri == uri)) = [] := by
        rw [List.filter_eq_nil_iff]
        intro e he
        simp [hall e he]
      rw [hothers, List.nil_append, List.filter_cons_of_pos (by simpa using hfirst)]
      rfl
    · rw [List.filter_cons_of_pos (by simpa using hfirst)]
      rfl

theorem Coherent.revalidate_load_again (h : x.Coherent) (hfile : x.file? uri = some (x.recordOf uri text))
    (hbehind : ¬ x.IsAhead uri) (other : String) : (x.load uri text).revalidate other = x.revalidate other :=
  revalidate_congr (x.options_load uri text) (file?_load_again hfile other)
    (fun d _ => h.head?_load_again hfile hbehind d.id) (fun r _ => h.contains_definitions_load_again hfile r.id)
    (fun d _ => h.contains_references_load_again hfile d.id)

/-! ## Kinds of findings -/

/-- All findings but those for repeated ids stay in any case. -/
theorem Coherent.filter_revalidate_load_again (h : x.Coherent) (hfile : x.file? uri = some (x.recordOf uri text))
    (other : String) :
    ((x.load uri text).revalidate other).map (·.filter (·.category != .duplicateIdentifier)) =
      (x.revalidate other).map (·.filter (·.category != .duplicateIdentifier)) := by
  have hnone : ∀ y : Index, (y.duplicates other).filter (·.category != .duplicateIdentifier) = [] := by
    intro y
    rw [List.filter_eq_nil_iff]
    intro f hf
    simp [category_of_mem_duplicates hf]
  unfold revalidate
  rw [file?_load_again hfile, h.consistency_load_again hfile, Option.map_map, Option.map_map]
  congr 1
  funext record
  simp only [Function.comp_apply, List.filter_append, hnone]

/-! ## Findings that move -/

/-- The findings of two definitions of one file are told apart by their places. -/
theorem eq_of_duplicateFinding_eq {first first' d d' : Definition} (hd : d ∈ (x.recordOf uri text).definitions)
    (hd' : d' ∈ (x.recordOf uri text).definitions)
    (heq : duplicateFinding x.options first d = duplicateFinding x.options first' d') : d = d' := by
  have hrange : d.idRange = d'.idRange := congrArg Finding.range heq
  exact eq_of_line_eq hd hd' (congrArg (·.start.line) hrange)

/-- A definition that is first under its id is not found to repeat it. -/
theorem duplicateFinding_not_mem_duplicates (hfile : x.file? uri = some (x.recordOf uri text)) {first d : Definition}
    (hd : d ∈ (x.recordOf uri text).definitions) (hhead : (x.definitions.entries d.id).head? = some d) :
    duplicateFinding x.options first d ∉ x.duplicates uri := by
  intro hmem
  rw [duplicates_eq_filterMap, List.mem_filterMap, fileOrFresh_of_file?_eq_some hfile] at hmem
  obtain ⟨d', hd', hfound⟩ := hmem
  obtain ⟨first', hfirst', heq⟩ := Option.map_eq_some_iff.1 hfound
  obtain rfl := eq_of_duplicateFinding_eq hd' hd heq
  rw [hhead] at hfirst'
  simp [Option.filter, isFirst_self] at hfirst'

/-- A definition whose id another file defines first is found to repeat it. -/
theorem duplicateFinding_mem_duplicates (hfile : x.file? uri = some (x.recordOf uri text)) {first d : Definition}
    (hd : d ∈ (x.recordOf uri text).definitions) (hhead : (x.definitions.entries d.id).head? = some first)
    (hfirst : first.uri ≠ uri) : duplicateFinding x.options first d ∈ x.duplicates uri := by
  have hapart : isFirst first d = false := by
    have howner : d.uri = uri := x.uri_of_mem_recordOf_definitions hd
    unfold isFirst
    rw [howner, beq_false_of_ne hfirst, Bool.false_and]
  rw [duplicates_eq_filterMap, List.mem_filterMap, fileOrFresh_of_file?_eq_some hfile]
  refine ⟨d, hd, ?_⟩
  unfold duplicate?
  rw [hhead]
  simp [Option.filter, hapart]

/-- Where another file defines an id too, it comes first then. -/
theorem Coherent.exists_head?_load_again (h : x.Coherent) (hfile : x.file? uri = some (x.recordOf uri text))
    {id : String} {e : Definition} (he : e ∈ x.definitions.entries id) (hne : e.uri ≠ uri) :
    ∃ first, ((x.load uri text).definitions.entries id).head? = some first ∧ first.uri ≠ uri := by
  have hothers : e ∈ (x.definitions.entries id).filter (fun d => !(d.uri == uri)) :=
    List.mem_filter.2 ⟨he, by simpa using hne⟩
  obtain ⟨first, rest, hfilter⟩ := List.exists_cons_of_ne_nil (List.ne_nil_of_mem hothers)
  have hfirst : first ∈ (x.definitions.entries id).filter (fun d => !(d.uri == uri)) := by
    rw [hfilter]
    exact List.mem_cons_self
  refine ⟨first, ?_, by simpa using (List.mem_filter.1 hfirst).2⟩
  rw [h.entries_definitions_load_again hfile, hfilter]
  rfl

/-- A file that is ahead of another one is the one that repeats the id from then on. -/
theorem Coherent.revalidate_load_again_ne (h : x.Coherent) (hfile : x.file? uri = some (x.recordOf uri text))
    (hahead : x.IsAhead uri) : (x.load uri text).revalidate uri ≠ x.revalidate uri := by
  obtain ⟨d, hd, hhead, e, he, hne⟩ := hahead
  rw [← recorded_of_file? FileRecord.definitions hfile] at hd
  have hrecord : (x.load uri text).recordOf = x.recordOf := recordOf_congr (x.options_load uri text)
  have hfile' : (x.load uri text).file? uri = some ((x.load uri text).recordOf uri text) := by
    rw [file?_load_again hfile, hfile, hrecord]
  obtain ⟨first, hhead', hfirst⟩ := h.exists_head?_load_again hfile he hne
  have hafter := duplicateFinding_mem_duplicates hfile' (hrecord ▸ hd) hhead' hfirst
  rw [options_load] at hafter
  obtain ⟨findings, hfindings, hmem⟩ : ∃ findings, (x.load uri text).revalidate uri = some findings ∧
      duplicateFinding x.options first d ∈ findings := by
    unfold revalidate
    rw [hfile', Option.map_some]
    exact ⟨_, rfl, List.mem_append_left _ (List.mem_append_right _ hafter)⟩
  intro hsame
  rw [hsame] at hfindings
  exact duplicateFinding_not_mem_duplicates hfile hd hhead (mem_duplicates_of_category hfile hfindings hmem rfl)

end Again

/-! ## Histories -/

/-- After any history of a new index in which all files were validated, analysing a live text once more tells all findings
of its file and changes at most the findings for repeated ids; and it tells what was told before and leaves the findings
of every file as they were, just if its file is not the first to define an id that another file defines too. -/
theorem analyze_again_iff (options : Options) (history : List FileCall) (uri text : String)
    (hready : FileCall.validateAll ∈ history) (htext : (FileCall.liveTexts history).lookup uri = some text) :
    let x := (empty options).callAll history
    let again := x.analyze uri text
    again.1.revalidate uri = some again.2 ∧
      (∀ other, (again.1.revalidate other).map (·.filter (·.category != .duplicateIdentifier)) =
        (x.revalidate other).map (·.filter (·.category != .duplicateIdentifier))) ∧
      ((x.revalidate uri = some again.2 ∧ ∀ other, again.1.revalidate other = x.revalidate other) ↔
        ¬ x.IsAhead uri) := by
  intro x again
  have hcoherent : x.Coherent := (coherent_empty options).callAll history
  have hphase : x.phase = .ready := ((empty options).phase_callAll_eq_ready_iff history).2 (.inr hready)
  have hfile : x.file? uri = some (x.recordOf uri text) := by
    rw [(assembledFrom_liveTexts options history).file?, htext, Option.map_some]
  have hindex : again.1 = x.load uri text := x.analyze_fst uri text
  have htold : again.1.revalidate uri = some again.2 := by
    rw [hindex]
    exact revalidate_load_self hphase uri text
  refine ⟨htold, ?_, ?_, ?_⟩
  · intro other
    rw [hindex]
    exact hcoherent.filter_revalidate_load_again hfile other
  · rintro ⟨_, hsame⟩ hahead
    rw [hindex] at hsame
    exact hcoherent.revalidate_load_again_ne hfile hahead (hsame uri)
  · intro hbehind
    have hsame : ∀ other, again.1.revalidate other = x.revalidate other := by
      intro other
      rw [hindex]
      exact hcoherent.revalidate_load_again hfile hbehind other
    exact ⟨(hsame uri).symm.trans htold, hsame⟩

/-- Of two documents that define the same id, the later one can be analysed again at will. -/
theorem analyze_again_later :
    let document := "# *x*\n\n**A** The x **shall** go.\n"
    let history : List FileCall := [.load "a.shalldn" document, .load "b.shalldn" document, .validateAll]
    let x := (empty {}).callAll history
    let again := x.analyze "b.shalldn" document
    FileCall.validateAll ∈ history ∧ (FileCall.liveTexts history).lookup "b.shalldn" = some document ∧
      x.revalidate "b.shalldn" = some again.2 ∧ ∀ other, again.1.revalidate other = x.revalidate other := by
  intro document history x again
  have hready : FileCall.validateAll ∈ history := by
    decide
  have htext : (FileCall.liveTexts history).lookup "b.shalldn" = some document := by
    decide +kernel
  have hbehind : ¬ x.IsAhead "b.shalldn" := by
    decide +kernel
  obtain ⟨_, _, hiff⟩ := analyze_again_iff {} history "b.shalldn" document hready htext
  exact ⟨hready, htext, hiff.2 hbehind⟩

/-- The earlier one is blamed for the id from then on, and the later one no longer. -/
theorem analyze_again_earlier_ne :
    let document := "# *x*\n\n**A** The x **shall** go.\n"
    let history : List FileCall := [.load "a.shalldn" document, .load "b.shalldn" document, .validateAll]
    let x := (empty {}).callAll history
    let again := x.analyze "a.shalldn" document
    x.phase = .ready ∧ (FileCall.liveTexts history).lookup "a.shalldn" = some document ∧
      x.revalidate "a.shalldn" ≠ some again.2 ∧ again.1.revalidate "b.shalldn" ≠ x.revalidate "b.shalldn" := by
  decide +kernel

end Traceability.Index
