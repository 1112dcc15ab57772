import Traceability.Proofs.Extraction.Categories
import Traceability.Proofs.Extraction.Definitions
import Traceability.Proofs.Index.History
set_option autoImplicit false

/-!
# Findings as the texts give them

What is wrong in a project can be told from the texts of its files alone, in the order in which they came:
`expectedFindings` reads it off them, without an index.  The main statement is that an index tells the same after
any history.

A definition counts as a repetition if another one of its id stands before it, in an earlier text or further up in its
own.  An index decides this otherwise: it compares the place of the id with that of the first definition.  The two agree
because no two ids of one document stand at the same place.
-/

namespace Traceability

namespace Index

/-! ## Findings from texts -/

section Specification

variable (options : Options)

/-- What a text contributes by itself. -/
def contribution (live : String × String) : Extraction := (empty options).extract live.1 live.2

/-- What some texts define, one text after the other. -/
def definitionsIn (texts : List (String × String)) : List Definition :=
  texts.flatMap fun live => (contribution options live).definitions

/-- What some texts refer to, one text after the other. -/
def referencesIn (texts : List (String × String)) : List Reference :=
  texts.flatMap fun live => (contribution options live).references

/-- The finding for a definition that is not the first of its id. -/
def duplicateFinding (first d : Definition) : Finding :=
  { Finding.duplicateIdentifier d.id d.idRange with
    remarks := if options.relatedInformation then [⟨"First defined here", some first.location⟩] else [] }

/-- A finding for each definition whose id is defined before it, where some definitions stand before all of them. -/
def duplicateFindings : (before : List Definition) → List Definition → List Finding
  | _, [] => []
  | before, d :: rest =>
    let later := duplicateFindings (before ++ [d]) rest
    match before.find? (·.id == d.id) with
    | none => later
    | some first => duplicateFinding options first d :: later

/-- All that is wrong in a file of a project: what is wrong with its text by itself, its definitions of ids that are
defined before, its references to ids that no text defines, and its definitions of ids to which no text refers. -/
def expectedFindings (texts : List (String × String)) (uri text : String) : List Finding :=
  let own := contribution options (uri, text)
  let before := texts.takeWhile (·.1 != uri)
  own.findings ++
    duplicateFindings options (definitionsIn options before) own.definitions ++
    ((own.references.filter fun r => !(definitionsIn options texts).any (·.id == r.id)).map fun r =>
      .unresolvedReference r.id r.range) ++
    ((own.definitions.filter fun d => !(referencesIn options texts).any (·.id == d.id)).map fun d =>
      .noImplementation d.id d.idRange)

end Specification

/-! ## Records -/

/-- What a file defines has an id. -/
theorem id_ne_empty_of_mem_extract (x : Index) {uri text : String} {d : Definition}
    (h : d ∈ (x.extract uri text).definitions) : d.id ≠ "" := by
  unfold extract at h
  split at h
  · exact Extraction.id_ne_empty_of_mem_definitions uri text _ h
  · cases h

/-- The ids that a file defines stand on lines further and further down. -/
theorem extract_definitions_pairwise (x : Index) (uri text : String) :
    (x.extract uri text).definitions.Pairwise fun d e => d.idRange.start.line < e.idRange.start.line := by
  unfold extract
  split
  · exact Extraction.definitions_pairwise uri text _
  · exact List.Pairwise.nil

/-- Since every definition has an id, a record keeps all that its text contributes. -/
theorem recordOf_eq (x : Index) (uri text : String) :
    x.recordOf uri text =
      { kind := x.options.fileKind uri
        subject := (contribution x.options (uri, text)).subject
        definitions := (contribution x.options (uri, text)).definitions
        references := (contribution x.options (uri, text)).references
        findings := (contribution x.options (uri, text)).findings } := by
  have hnamed : ∀ d ∈ (x.extract uri text).definitions, d.id.isEmpty = false := by
    intro d hd
    simpa using x.id_ne_empty_of_mem_extract hd
  have hkept : (x.extract uri text).definitions.filter (fun d => !d.id.isEmpty) =
      (x.extract uri text).definitions := by
    rw [List.filter_eq_self]
    intro d hd
    rw [hnamed d hd]
    rfl
  have hmissing : (x.extract uri text).definitions.filter (·.id.isEmpty) = [] := by
    rw [List.filter_eq_nil_iff]
    intro d hd
    rw [hnamed d hd]
    exact Bool.false_ne_true
  unfold recordOf
  simp only [hkept, hmissing, List.map_nil, List.append_nil]
  rfl

/-- What a record keeps is wrong with its text by itself. -/
theorem category_of_mem_recordOf {x : Index} {uri text : String} {f : Finding}
    (hf : f ∈ (x.recordOf uri text).findings) : f.category ∈ Category.internal := by
  rw [recordOf_eq] at hf
  exact (empty x.options).category_of_mem_extract hf

/-! ## Repeated definitions -/

/-- The finding of an index for a definition, if its id is first defined elsewhere. -/
def duplicate? (x : Index) (d : Definition) : Option Finding :=
  ((x.definitions.entries d.id).head?.filter fun first => !isFirst first d).map (duplicateFinding x.options · d)

theorem duplicates_eq_filterMap (x : Index) (uri : String) :
    x.duplicates uri = (x.fileOrFresh uri).definitions.filterMap x.duplicate? := by
  unfold duplicates
  apply List.filterMap_congr
  intro d _
  unfold duplicate?
  cases x.definitions.entries d.id with
  | nil => rfl
  | cons first rest =>
    cases hfirst : isFirst first d with
    | true => simp [hfirst, Option.filter]
    | false => simp [hfirst, Option.filter, duplicateFinding]

/-- The findings for further definitions of ids are of their own kind. -/
theorem category_of_mem_duplicates {x : Index} {uri : String} {f : Finding} (hf : f ∈ x.duplicates uri) :
    f.category = .duplicateIdentifier := by
  rw [duplicates_eq_filterMap] at hf
  obtain ⟨d, _, hd⟩ := List.mem_filterMap.1 hf
  obtain ⟨first, _, rfl⟩ := Option.map_eq_some_iff.1 hd
  rfl

theorem isCrossFile_of_mem_consistency {x : Index} {uri : String} {f : Finding} (hf : f ∈ x.consistency uri) :
    f.category.isCrossFile = true := by
  rcases List.mem_append.1 hf with hf | hf
  · obtain ⟨r, _, rfl⟩ := List.mem_map.1 hf
    rfl
  · obtain ⟨d, _, rfl⟩ := List.mem_map.1 hf
    rfl

theorem isFirst_self (d : Definition) : isFirst d d = true := by
  unfold isFirst
  rw [beq_self_eq_true, beq_self_eq_true, Bool.and_self]

/-- Where no definition stands at the place of a later one, an index finds those to be repetitions that have another one
of their id before them. -/
theorem filterMap_duplicate? (x : Index) {before own : List Definition} (later : List Definition)
    (hentries : ∀ id, x.definitions.entries id = (before ++ own ++ later).filter (·.id == id))
    (hbefore : ∀ e ∈ before, ∀ d ∈ own, isFirst e d = false)
    (hown : own.Pairwise fun e d => isFirst e d = false) :
    own.filterMap x.duplicate? = duplicateFindings x.options before own := by
  induction own generalizing before with
  | nil => rfl
  | cons d rest ih =>
    obtain ⟨hd, hrest⟩ := List.pairwise_cons.1 hown
    have hfirst : (x.definitions.entries d.id).head? = (before.find? (·.id == d.id)).or (some d) := by
      rw [hentries, List.head?_filter, List.append_assoc, List.find?_append]
      simp
    have hlater : rest.filterMap x.duplicate? = duplicateFindings x.options (before ++ [d]) rest := by
      apply ih
      · intro id
        rw [hentries]
        simp
      · intro e he f hf
        rcases List.mem_append.1 he with he | he
        · exact hbefore e he f (List.mem_cons_of_mem d hf)
        · rw [List.mem_singleton] at he
          subst he
          exact hd f hf
      · exact hrest
    rw [List.filterMap_cons, hlater, duplicateFindings, duplicate?, hfirst]
    cases hfind : before.find? (·.id == d.id) with
    | none => simp [Option.filter, isFirst_self]
    | some first =>
      have hapart := hbefore first (List.mem_of_find?_eq_some hfind) d List.mem_cons_self
      simp [Option.filter, hapart]

namespace AssembledFrom

variable {x : Index} {texts : List (String × String)}

theorem entries_definitions (h : AssembledFrom texts x) (id : String) :
    x.definitions.entries id = (definitionsIn x.options texts).filter (·.id == id) := by
  unfold definitionsIn
  rw [h.definitions, List.filter_flatMap]
  simp only [recordOf_eq]

theorem entries_references (h : AssembledFrom texts x) (id : String) :
    x.references.entries id = (referencesIn x.options texts).filter (·.id == id) := by
  unfold referencesIn
  rw [h.references, List.filter_flatMap]
  simp only [recordOf_eq]

theorem duplicates (h : AssembledFrom texts x) {uri text : String} (htext : texts.lookup uri = some text) :
    x.duplicates uri =
      duplicateFindings x.options (definitionsIn x.options (texts.takeWhile (·.1 != uri)))
        (contribution x.options (uri, text)).definitions := by
  obtain ⟨before, after, rfl, hbefore⟩ := List.lookup_eq_some_iff.1 htext
  have hne : ∀ live ∈ before, live.1 ≠ uri := by
    intro live hlive heq
    exact absurd (hbefore live hlive) (by simp [heq])
  have htake : (before ++ (uri, text) :: after).takeWhile (·.1 != uri) = before := by
    rw [List.takeWhile_append_of_pos (by simpa using hne)]
    simp
  have hrecord : (x.fileOrFresh uri).definitions = (contribution x.options (uri, text)).definitions := by
    have hfile : x.file? uri = some (x.recordOf uri text) := by
      rw [h.file?, htext]
      rfl
    rw [fileOrFresh_of_file?_eq_some hfile, recordOf_eq]
  rw [duplicates_eq_filterMap, hrecord, htake]
  apply x.filterMap_duplicate? (definitionsIn x.options after)
  · intro id
    rw [h.entries_definitions]
    simp [definitionsIn]
  · intro e he d hd
    obtain ⟨live, hlive, hmem⟩ := List.mem_flatMap.1 he
    have huri : e.uri = live.1 := (empty x.options).uri_of_mem_extract_definitions hmem
    have huri' : d.uri = uri := (empty x.options).uri_of_mem_extract_definitions hd
    unfold isFirst
    rw [huri, huri', beq_false_of_ne (hne live hlive), Bool.false_and]
  · refine ((empty x.options).extract_definitions_pairwise uri text).imp ?_
    intro e d hlt
    have hplace : e.idRange ≠ d.idRange := by
      intro heq
      rw [heq] at hlt
      exact Nat.lt_irrefl _ hlt
    unfold isFirst
    rw [beq_false_of_ne hplace, Bool.and_false]

/-- An index that is assembled from texts tells the findings that the texts give. -/
theorem revalidate (h : AssembledFrom texts x) (hx : x.Coherent) (uri : String) :
    x.revalidate uri = (texts.lookup uri).map (expectedFindings x.options texts uri) := by
  have hdefined : ∀ id, x.definitions.contains id = (definitionsIn x.options texts).any (·.id == id) :=
    fun id => hx.definitions.occupied.contains_eq_any (h.entries_definitions id)
  have hclaimed : ∀ id, x.references.contains id = (referencesIn x.options texts).any (·.id == id) :=
    fun id => hx.references.occupied.contains_eq_any (h.entries_references id)
  have hfile := h.file? uri
  unfold Index.revalidate
  cases htext : texts.lookup uri with
  | none =>
    rw [htext] at hfile
    rw [hfile]
    rfl
  | some text =>
    rw [htext, Option.map_some] at hfile
    rw [hfile, Option.map_some, Option.map_some, h.duplicates htext]
    unfold consistency expectedFindings
    simp only [fileOrFresh_of_file?_eq_some hfile, hdefined, hclaimed, recordOf_eq, List.append_assoc]

end AssembledFrom

/-! ## Histories -/

/-- The findings of all files are told in the order of their uris. -/
theorem validateAll_pairwise (x : Index) : (x.validateAll.2.map Prod.fst).Pairwise (· < ·) := by
  have hsorted : x.files.keys.Pairwise (· < ·) :=
    (Std.ExtTreeMap.ordered_keys (t := x.files)).imp fun h => compareOfLessAndEq_eq_lt.1 h
  unfold validateAll
  rw [List.pairwise_map, List.pairwise_filterMap]
  refine hsorted.imp ?_
  intro uri other hlt item hitem item' hitem'
  obtain ⟨_, _, rfl⟩ := Option.map_eq_some_iff.1 hitem
  obtain ⟨_, _, rfl⟩ := Option.map_eq_some_iff.1 hitem'
  exact hlt

/-- After any history of a new index, the findings of each file are those that the live texts give, and the validation
of all files tells them for every live text once, in the order of the uris. -/
theorem findings_match_liveTexts (options : Options) (history : List FileCall) :
    let x := (empty options).callAll history
    let texts := FileCall.liveTexts history
    (∀ uri, x.revalidate uri = (texts.lookup uri).map (expectedFindings options texts uri)) ∧
      (x.validateAll.2.map Prod.fst).Pairwise (· < ·) ∧
      ∀ uri findings, (uri, findings) ∈ x.validateAll.2 ↔
        ∃ text, texts.lookup uri = some text ∧ findings = expectedFindings options texts uri text := by
  intro x texts
  have hx : AssembledFrom texts x := assembledFrom_liveTexts options history
  have hrevalidate : ∀ uri, x.revalidate uri = (texts.lookup uri).map (expectedFindings options texts uri) := by
    intro uri
    rw [hx.revalidate ((coherent_empty options).callAll history), options_callAll]
    rfl
  refine ⟨hrevalidate, x.validateAll_pairwise, ?_⟩
  intro uri findings
  have hready : x.validateAll.1.revalidate uri = x.revalidate uri := rfl
  rw [mem_validateAll_iff, hready, hrevalidate, Option.map_eq_some_iff]
  simp only [eq_comm]

/-- Of two documents that define the same id, the later one repeats it. -/
example :
    let text := "# *x*\n\n**A** The x **shall** go.\n"
    let texts := [("b.shalldn", text), ("a.shalldn", text)]
    (expectedFindings {} texts "a.shalldn" text).map Finding.category = [.duplicateIdentifier, .noImplementation] ∧
      (expectedFindings {} texts "b.shalldn" text).map Finding.category = [.noImplementation] := by
  decide +kernel

end Index

end Traceability
