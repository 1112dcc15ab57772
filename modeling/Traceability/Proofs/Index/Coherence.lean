import Traceability.Proofs.Index.Calls
set_option autoImplicit false

/-!
# Coherence of an index

An index is coherent if both of its ledgers mirror the records of its files.  Every call keeps this, so it holds
after every run of calls on a new index, however single additions and whole files are mixed.  This is what lets
a file be taken out by looking at its record alone.
-/

namespace Traceability.Index

/-! ## Contributions by file -/

/-- One part of the record of a file, its definitions or its references; empty if the file has no record. -/
def recorded {α : Type} (part : FileRecord → List α) (x : Index) (uri : String) : List α :=
  (x.file? uri).elim [] part

/-- A fresh record holds nothing, so it makes no difference where there is no record. -/
theorem fileOrFresh_part {α : Type} {part : FileRecord → List α} (hfresh : ∀ kind, part { kind } = []) (x : Index)
    (uri : String) : part (x.fileOrFresh uri) = x.recorded part uri := by
  unfold fileOrFresh recorded
  cases x.file? uri with
  | none => exact hfresh _
  | some record => rfl

theorem fileOrFresh_definitions (x : Index) (uri : String) :
    (x.fileOrFresh uri).definitions = x.recorded FileRecord.definitions uri :=
  x.fileOrFresh_part (fun _ => rfl) uri

theorem fileOrFresh_references (x : Index) (uri : String) :
    (x.fileOrFresh uri).references = x.recorded FileRecord.references uri :=
  x.fileOrFresh_part (fun _ => rfl) uri

/-- What a new record of one file does to the parts of all records. -/
theorem recorded_eq_update {α : Type} {x y : Index} {uri : String} {record : FileRecord}
    (h : ∀ other, y.file? other = if uri = other then some record else x.file? other)
    (part : FileRecord → List α) : y.recorded part = Function.update (x.recorded part) uri (part record) := by
  funext other
  unfold recorded
  rw [h]
  by_cases hother : uri = other
  · subst hother
    rw [if_pos rfl, Function.update_self, Option.elim_some]
  · rw [if_neg hother, Function.update_of_ne (Ne.symm hother)]

theorem recorded_insertDefinition (x : Index) (d : Definition) :
    (x.insertDefinition d).recorded FileRecord.definitions =
      Function.update (x.recorded FileRecord.definitions) d.uri
        (x.recorded FileRecord.definitions d.uri ++ [d]) := by
  rw [recorded_eq_update (x.file?_insertDefinition d), fileOrFresh_definitions]

theorem recorded_references_insertDefinition (x : Index) (d : Definition) :
    (x.insertDefinition d).recorded FileRecord.references = x.recorded FileRecord.references := by
  rw [recorded_eq_update (x.file?_insertDefinition d), fileOrFresh_references, Function.update_eq_self]

theorem recorded_insertReference (x : Index) (r : Reference) :
    (x.insertReference r).recorded FileRecord.references =
      Function.update (x.recorded FileRecord.references) r.uri
        (x.recorded FileRecord.references r.uri ++ [r]) := by
  rw [recorded_eq_update (x.file?_insertReference r), fileOrFresh_references]

theorem recorded_definitions_insertReference (x : Index) (r : Reference) :
    (x.insertReference r).recorded FileRecord.definitions = x.recorded FileRecord.definitions := by
  rw [recorded_eq_update (x.file?_insertReference r), fileOrFresh_definitions, Function.update_eq_self]

theorem recorded_load {α : Type} (part : FileRecord → List α) (x : Index) (uri text : String) :
    (x.load uri text).recorded part =
      Function.update (x.recorded part) uri (part (x.recordOf uri text)) :=
  recorded_eq_update (x.file?_load uri text) part

theorem recorded_remove {α : Type} (part : FileRecord → List α) (x : Index) (uri : String) :
    (x.remove uri).recorded part = Function.update (x.recorded part) uri [] := by
  funext other
  unfold recorded
  rw [file?_remove]
  by_cases hother : uri = other
  · subst hother
    rw [if_pos rfl, Function.update_self, Option.elim_none]
  · rw [if_neg hother, Function.update_of_ne (Ne.symm hother)]

/-! ## The invariant -/

/-- Both ledgers mirror the records of the files, and what is defined has an id. -/
structure Coherent (x : Index) : Prop where
  definitions : x.definitions.Mirrors Definition.id Definition.uri (x.recorded FileRecord.definitions)
  references : x.references.Mirrors Reference.id Reference.uri (x.recorded FileRecord.references)
  named : ∀ id, ∀ d ∈ x.definitions.entries id, d.id ≠ ""

theorem coherent_empty (options : Options) : (empty options).Coherent where
  definitions := Ledger.Mirrors.empty
  references := Ledger.Mirrors.empty
  named := by
    intro id d hd
    exact absurd hd (by simp [empty])

namespace Coherent

variable {x : Index}

/-! ## Single contributions -/

theorem insertDefinition (h : x.Coherent) {d : Definition} (hid : d.id ≠ "") : (x.insertDefinition d).Coherent where
  definitions := by
    rw [recorded_insertDefinition]
    exact h.definitions.push d
  references := by
    rw [recorded_references_insertDefinition]
    exact h.references
  named := by
    intro id d' hd'
    have hentries : (x.insertDefinition d).definitions = x.definitions.push d.id d := rfl
    rw [hentries, Ledger.entries_push] at hd'
    by_cases hkey : d.id = id
    · rw [if_pos hkey, List.mem_append, List.mem_singleton] at hd'
      rcases hd' with hd' | rfl
      · exact h.named id d' hd'
      · exact hid
    · rw [if_neg hkey] at hd'
      exact h.named id d' hd'

theorem insertReference (h : x.Coherent) (r : Reference) : (x.insertReference r).Coherent where
  definitions := by
    rw [recorded_definitions_insertReference]
    exact h.definitions
  references := by
    rw [recorded_insertReference]
    exact h.references.push r
  named := h.named

/-- A definition without an id is not added at all. -/
theorem addDefinition (h : x.Coherent) (d : Definition) : (x.addDefinition d).1.Coherent := by
  cases hid : d.id.isEmpty with
  | true =>
    rw [addDefinition_of_isEmpty x hid]
    exact h
  | false =>
    obtain ⟨outcome, _, hadd⟩ := x.addDefinition_of_named hid
    rw [hadd]
    exact h.insertDefinition (by simpa using hid)

theorem addReferences (h : x.Coherent) (uri : String) (range : Text.Range) (ids : List String) :
    (x.addReferences uri range ids).Coherent := by
  unfold Index.addReferences
  induction ids generalizing x with
  | nil => exact h
  | cons id rest ih =>
    rw [List.foldl_cons]
    exact ih (h.insertReference ⟨id, uri, range⟩)

/-! ## Whole files -/

theorem purged_definitions (h : x.Coherent) (uri : String) :
    (x.purge uri).definitions.Mirrors Definition.id Definition.uri
      (Function.update (x.recorded FileRecord.definitions) uri []) := by
  rw [purge_eq, fileOrFresh_definitions]
  exact h.definitions.pruneAll uri

theorem purged_references (h : x.Coherent) (uri : String) :
    (x.purge uri).references.Mirrors Reference.id Reference.uri
      (Function.update (x.recorded FileRecord.references) uri []) := by
  rw [purge_eq, fileOrFresh_references]
  exact h.references.pruneAll uri

theorem entries_purge_definitions (h : x.Coherent) (uri id : String) :
    (x.purge uri).definitions.entries id = (x.definitions.entries id).filter fun d => !(d.uri == uri) := by
  rw [purge_eq, fileOrFresh_definitions]
  exact h.definitions.entries_pruneAll uri id

theorem entries_purge_references (h : x.Coherent) (uri id : String) :
    (x.purge uri).references.entries id = (x.references.entries id).filter fun r => !(r.uri == uri) := by
  rw [purge_eq, fileOrFresh_references]
  exact h.references.entries_pruneAll uri id

theorem entries_load_definitions (h : x.Coherent) (uri text id : String) :
    (x.load uri text).definitions.entries id =
      (x.definitions.entries id).filter (fun d => !(d.uri == uri)) ++
        (x.recordOf uri text).definitions.filter (·.id == id) := by
  rw [load_eq, Ledger.entries_pushAll, h.entries_purge_definitions]

theorem entries_load_references (h : x.Coherent) (uri text id : String) :
    (x.load uri text).references.entries id =
      (x.references.entries id).filter (fun r => !(r.uri == uri)) ++
        (x.recordOf uri text).references.filter (·.id == id) := by
  rw [load_eq, Ledger.entries_pushAll, h.entries_purge_references]

theorem load (h : x.Coherent) (uri text : String) : (x.load uri text).Coherent where
  definitions := by
    have howner : ∀ d ∈ (x.recordOf uri text).definitions, d.uri = uri :=
      fun _ hd => x.uri_of_mem_recordOf_definitions hd
    rw [recorded_load, load_eq]
    exact (h.purged_definitions uri).refill howner
  references := by
    have howner : ∀ r ∈ (x.recordOf uri text).references, r.uri = uri :=
      fun _ hr => x.uri_of_mem_recordOf_references hr
    rw [recorded_load, load_eq]
    exact (h.purged_references uri).refill howner
  named := by
    intro id d hd
    rw [h.entries_load_definitions, List.mem_append] at hd
    rcases hd with hd | hd
    · exact h.named id d (List.mem_filter.1 hd).1
    · exact x.id_ne_empty_of_mem_recordOf (List.mem_filter.1 hd).1

theorem remove (h : x.Coherent) (uri : String) : (x.remove uri).Coherent where
  definitions := by
    rw [recorded_remove]
    exact h.purged_definitions uri
  references := by
    rw [recorded_remove]
    exact h.purged_references uri
  named := by
    intro id d hd
    have hentries : (x.remove uri).definitions = (x.purge uri).definitions := rfl
    rw [hentries, h.entries_purge_definitions] at hd
    exact h.named id d (List.mem_filter.1 hd).1

/-! ## Runs -/

theorem call (h : x.Coherent) (c : FileCall) : (x.call c).Coherent := by
  cases c with
  | load uri text => exact h.load uri text
  | analyze uri text =>
    rw [call_analyze]
    exact h.load uri text
  | remove uri => exact h.remove uri
  | revalidate uri => exact h
  | validateAll => exact ⟨h.definitions, h.references, h.named⟩

theorem mutate (h : x.Coherent) (m : Mutation) : (x.mutate m).Coherent := by
  cases m with
  | file c => exact h.call c
  | addDefinition d => exact h.addDefinition d
  | addReferences uri range ids => exact h.addReferences uri range ids

theorem callAll (h : x.Coherent) (calls : List FileCall) : (x.callAll calls).Coherent := by
  induction calls generalizing x with
  | nil => exact h
  | cons c rest ih => exact ih (h.call c)

theorem mutateAll (h : x.Coherent) (mutations : List Mutation) : (x.mutateAll mutations).Coherent := by
  induction mutations generalizing x with
  | nil => exact h
  | cons m rest ih => exact ih (h.mutate m)

end Coherent

/-- After any calls on a new index, in any order: under each id, the definitions and references of a file are
those of its record, in the same order; no id stands without entries, and each entry stands under its own id;
and nothing is defined that has no id. -/
theorem ledgers_match_records (options : Options) (mutations : List Mutation) (id uri : String) :
    let x := (empty options).mutateAll mutations
    (x.definitions.entries id).filter (·.uri == uri) =
        (x.recorded FileRecord.definitions uri).filter (·.id == id) ∧
      (x.references.entries id).filter (·.uri == uri) =
        (x.recorded FileRecord.references uri).filter (·.id == id) ∧
      x.definitions[id]? ≠ some [] ∧
      x.references[id]? ≠ some [] ∧
      (∀ d ∈ x.definitions.entries id, d.id = id ∧ d.id ≠ "") ∧
      (∀ r ∈ x.references.entries id, r.id = id) ∧
      (∀ d ∈ x.recorded FileRecord.definitions uri, d.uri = uri ∧ d.id ≠ "") ∧
      ∀ r ∈ x.recorded FileRecord.references uri, r.uri = uri := by
  intro x
  have h : x.Coherent := (coherent_empty options).mutateAll mutations
  refine ⟨h.definitions.owned id uri, h.references.owned id uri, h.definitions.occupied id,
    h.references.occupied id, ?_, h.references.keyed id, ?_, fun _ hr => h.references.owner_of_mem hr⟩
  · intro d hd
    exact ⟨h.definitions.keyed id d hd, h.named id d hd⟩
  · intro d hd
    have howner : d.uri = uri := h.definitions.owner_of_mem hd
    have hentry : d ∈ x.definitions.entries d.id := by
      rw [h.definitions.mem_entries_iff]
      exact ⟨howner.symm ▸ hd, rfl⟩
    exact ⟨howner, h.named d.id d hentry⟩

end Traceability.Index
