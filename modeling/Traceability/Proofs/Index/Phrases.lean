import Traceability.Proofs.Extraction.Phrases
import Traceability.Proofs.Index.Repetitions
set_option autoImplicit false

/-!
# Names that are phrases, across a project

A link to a phrase leads to the heading that defines it just if both take the same text for their id, and they do so just
if the words of the phrase have single spaces between them and nothing behind them.
-/

namespace Traceability

open Text Document

namespace Index

/-! ## Queries for what a text contributes -/

namespace AssembledFrom

variable {x : Index} {texts : List (String × String)} {uri text : String}

theorem recorded_of_lookup {α : Type} (h : AssembledFrom texts x) (hlookup : texts.lookup uri = some text)
    (part : FileRecord → List α) : x.recorded part uri = part (x.recordOf uri text) := by
  unfold recorded
  rw [h.file?, hlookup]
  rfl

/-- A definition is found under its own id and under no other one. -/
theorem location_mem_findDefinition_iff (h : AssembledFrom texts x) (hx : x.Coherent)
    (hlookup : texts.lookup uri = some text) {d : Definition} (hd : d ∈ (x.recordOf uri text).definitions)
    (id : String) : d.location ∈ x.findDefinition id ↔ d.id = id := by
  have huri := x.uri_of_mem_recordOf_definitions hd
  have hrecorded := h.recorded_of_lookup hlookup FileRecord.definitions
  refine hx.definitions.mem_map_entries_iff (by rw [huri, hrecorded]; exact hd) (fun other hother hplace => ?_) id
  have hsame : other.uri = uri := (congrArg Location.uri hplace).trans huri
  rw [hsame, hrecorded] at hother
  refine eq_of_line_eq hother hd ?_
  rw [← start_line_of_mem_recordOf hother, ← start_line_of_mem_recordOf hd]
  exact congrArg (fun l : Location => l.range.start.line) hplace

/-- So is a reference that is the only one on its line. -/
theorem location_mem_findReferences_iff (h : AssembledFrom texts x) (hx : x.Coherent)
    (hlookup : texts.lookup uri = some text) {r : Reference}
    (hr : (x.extract uri text).references.filter (fun e => e.range.start.line = r.range.start.line) = [r])
    (id : String) : r.location ∈ x.findReferences id ↔ r.id = id := by
  have hmem : r ∈ (x.recordOf uri text).references := (List.mem_filter.1 (hr ▸ List.mem_singleton_self r)).1
  have huri := x.uri_of_mem_recordOf_references hmem
  have hrecorded := h.recorded_of_lookup hlookup FileRecord.references
  refine hx.references.mem_map_entries_iff (by rw [huri, hrecorded]; exact hmem) (fun other hother hplace => ?_) id
  have hsame : other.uri = uri := (congrArg Location.uri hplace).trans huri
  have hline := congrArg (fun l : Location => l.range.start.line) hplace
  rw [hsame, hrecorded] at hother
  exact List.mem_singleton.1 (hr ▸ List.mem_filter.2 ⟨hother, decide_eq_true hline⟩)

end AssembledFrom

/-! ## A heading and a link -/

variable (options : Options) (texts : List (String × String)) (name : Name) (uri text : String) (number : Nat)

/-- Behind the first line of a document there is a heading with the name. -/
structure HeadingAt : Prop where
  lookup_eq : texts.lookup uri = some text
  fileKind_eq : options.fileKind uri = .document
  number_ne_zero : number ≠ 0
  line_eq : (lines text)[number]? = some (Row.heading name).text

/-- On a line of a document there is a link to the name, which does not go on on the next line. -/
structure LinkAt : Prop where
  lookup_eq : texts.lookup uri = some text
  fileKind_eq : options.fileKind uri = .document
  line_eq : (lines text)[number]? = some (linkLine name)
  classify_next : ∀ next ∈ (lines text)[number + 1]?, classify next ≠ .text true

variable {options texts name uri text number}

theorem HeadingAt.filter_definitions (h : HeadingAt options texts name uri text number) {x : Index}
    (hoptions : x.options = options) :
    let range := Range.onLine number 4 (4 + utf16Length name.text)
    (x.extract uri text).definitions.filter (fun d => d.idRange.start.line = number) =
      [⟨String.ofList name.text, uri, range, range⟩] := by
  unfold extract
  rw [hoptions, h.fileKind_eq]
  exact Extraction.filter_definitions_of_heading uri _ h.number_ne_zero h.line_eq

theorem LinkAt.filter_references (h : LinkAt options texts name uri text number) {x : Index}
    (hoptions : x.options = options) :
    (x.extract uri text).references.filter (fun r => r.range.start.line = number) =
      [⟨String.ofList (collapse name.text), uri, Range.onLine number 2 (17 + utf16Length name.text)⟩] := by
  unfold extract
  rw [hoptions, h.fileKind_eq]
  exact Extraction.filter_references_of_linkLine uri _ h.line_eq h.classify_next

/-- All over a project, the id that a heading defines is its name, the id to which a link refers is its name with the
blanks collapsed, and the word under a cursor on either of them, markers included, is the name without the blanks at its
end.  These are the same just if the name is single-spaced.  The link leads to the heading just then; a cursor on either
of them leads to the heading just if the name does not end with a blank, and to the link just if what stands in front of
such blanks is single-spaced. -/
theorem one_id_of_name_iff (history : List FileCall) {uri' text' : String} {number' : Nat}
    (hheading : HeadingAt options (FileCall.liveTexts history) name uri text number)
    (hlink : LinkAt options (FileCall.liveTexts history) name uri' text' number') :
    let x := (empty options).callAll history
    let width := utf16Length name.text
    let definition : Definition :=
      ⟨String.ofList name.text, uri, .onLine number 4 (4 + width), .onLine number 4 (4 + width)⟩
    let claim : Reference := ⟨String.ofList (collapse name.text), uri', .onLine number' 2 (17 + width)⟩
    let word := trim name.text
    (x.extract uri text).definitions.filter (fun d => d.idRange.start.line = number) = [definition] ∧
      (x.extract uri' text').references.filter (fun r => r.range.start.line = number') = [claim] ∧
      (∀ p, (Range.onLine number 3 (5 + width)).contains p = true → wordAtPosition text p = some word) ∧
      (∀ p, (Range.onLine number' 13 (17 + width)).contains p = true → wordAtPosition text' p = some word) ∧
      (definition.id = claim.id ∧ claim.id = String.ofList word ↔ IsSingleSpaced name.text) ∧
      (definition.location ∈ x.findDefinition claim.id ↔ IsSingleSpaced name.text) ∧
      (definition.location ∈ x.findDefinition (String.ofList word) ↔ ∀ c ∈ name.text.getLast?, isBlank c = false) ∧
      (claim.location ∈ x.findReferences (String.ofList word) ↔ IsSingleSpaced word) := by
  intro x width definition claim word
  have hx : AssembledFrom (FileCall.liveTexts history) x := assembledFrom_liveTexts options history
  have hcoherent : x.Coherent := (coherent_empty options).callAll history
  have hoptions : x.options = options := options_callAll (empty options) history
  have hdefinitions := hheading.filter_definitions hoptions
  have hreferences := hlink.filter_references hoptions
  have hspaced : definition.id = claim.id ↔ IsSingleSpaced name.text := by
    rw [String.ofList_inj, eq_comm, collapse_eq_self_iff name.isInked]
  have htrimmed : definition.id = String.ofList word ↔ ∀ c ∈ name.text.getLast?, isBlank c = false := by
    rw [String.ofList_inj, eq_comm, trim_eq_self_iff name.isInked]
  have hrecord : definition ∈ (x.recordOf uri text).definitions := by
    have hnamed : definition.id ≠ "" := fun hnone =>
      ne_nil_of_startsInked name.isInked (String.ofList_eq_empty_iff.1 hnone)
    exact List.mem_filter.2
      ⟨(List.mem_filter.1 (hdefinitions ▸ List.mem_singleton_self definition)).1, by simpa using hnamed⟩
  have hdefinition := hx.location_mem_findDefinition_iff hcoherent hheading.lookup_eq hrecord
  have hclaim := hx.location_mem_findReferences_iff (r := claim) hcoherent hlink.lookup_eq hreferences
  refine ⟨hdefinitions, hreferences, fun p hp => ?_, fun p hp => ?_, ⟨fun h => hspaced.1 h.1, fun h => ?_⟩, ?_, ?_, ?_⟩
  · have hstop : 5 + width = 3 + 1 + width + 1 := by omega
    rw [hstop] at hp
    exact wordAtPosition_of_emphasised hheading.line_eq (phrasesOf_heading name) hp
  · have hstop : 17 + width = 13 + 2 + width + 2 := by omega
    rw [hstop] at hp
    exact wordAtPosition_of_emphasised hlink.line_eq (phrasesOf_linkLine name) hp
  · have hsame := hspaced.2 h
    exact ⟨hsame, hsame.symm.trans (htrimmed.2 h.isBlank_getLast?)⟩
  · rw [hdefinition, hspaced]
  · rw [hdefinition, htrimmed]
  · rw [hclaim, String.ofList_inj, collapse_eq_trim_iff name.isInked]

theorem findDefinition_of_single_spaced_name :
    let name : Name := ⟨⟨"export to html".toList, by decide⟩, by decide⟩
    let heading := "# *x*\n## *export to html*\n"
    let link := "# *x*\n* Implements **export to html**\n"
    let history : List FileCall := [.load "a.shalldn" heading, .load "b.shalldn" link]
    HeadingAt {} (FileCall.liveTexts history) name "a.shalldn" heading 1 ∧
      LinkAt {} (FileCall.liveTexts history) name "b.shalldn" link 1 ∧
      wordAtPosition link ⟨1, 13⟩ = some "export to html".toList ∧
      ⟨"a.shalldn", .onLine 1 4 18⟩ ∈ ((empty {}).callAll history).findDefinition "export to html" := by
  intro name heading link history
  have hheading : HeadingAt {} (FileCall.liveTexts history) name "a.shalldn" heading 1 :=
    ⟨by decide +kernel, by decide +kernel, by decide, by decide +kernel⟩
  have hlink : LinkAt {} (FileCall.liveTexts history) name "b.shalldn" link 1 :=
    ⟨by decide +kernel, by decide +kernel, by decide +kernel, by decide +kernel⟩
  have hspaced : IsSingleSpaced name.text := (collapse_eq_self_iff name.isInked).1 (by decide)
  have hid : String.ofList (collapse name.text) = "export to html" := by decide +kernel
  have hword : trim name.text = "export to html".toList := by decide
  obtain ⟨_, _, _, hcursor, _, hresolves, _⟩ := one_id_of_name_iff history hheading hlink
  have hplace := hresolves.2 hspaced
  rw [hid] at hplace
  exact ⟨hheading, hlink, hword ▸ hcursor ⟨1, 13⟩ (by decide), hplace⟩

/-- With two spaces in it, the heading and the link have different ids, and only that of the heading is under a cursor. -/
theorem two_ids_of_double_spaced_name :
    let text := "# *x*\n\n## *a  b*\n* Implements **a  b**\n"
    let extraction := Extraction.ofText "a.shalldn" text none
    extraction.definitions.map Definition.id = ["a  b"] ∧ extraction.references.map Reference.id = ["a b"] ∧
      wordAtPosition text ⟨2, 6⟩ = some "a  b".toList ∧ wordAtPosition text ⟨3, 16⟩ = some "a  b".toList := by
  decide +kernel

end Index

end Traceability
