import Mathlib.Data.List.Basic
import Traceability.Proofs.Index.Coherence
set_option autoImplicit false

/-!
# Linked files

The findings of a file depend on other files in three ways: through an id that it defines and another file
refers to, through one that it refers to and another file defines, and through one that both define.  `linked`
collects the files that share an id with a file in one of these ways.

The main statement is that this is enough: when the text of one file changes, or the file goes, the findings of
all files stay as they were, apart from those linked to it before or after the change.  Links go both ways, and they
never lead out of the index, although they are collected from the record of one file and from both ledgers.
-/

namespace Traceability.Index

/-! ## Shared ids -/

/-- The file defines the id. -/
def Defines (x : Index) (uri id : String) : Prop := ∃ d ∈ x.recorded FileRecord.definitions uri, d.id = id

/-- The file refers to the id. -/
def RefersTo (x : Index) (uri id : String) : Prop := ∃ r ∈ x.recorded FileRecord.references uri, r.id = id

theorem defines_congr {x y : Index} {uri : String} (h : y.file? uri = x.file? uri) (id : String) :
    y.Defines uri id ↔ x.Defines uri id := by
  unfold Defines recorded
  rw [h]

theorem refersTo_congr {x y : Index} {uri : String} (h : y.file? uri = x.file? uri) (id : String) :
    y.RefersTo uri id ↔ x.RefersTo uri id := by
  unfold RefersTo recorded
  rw [h]

namespace Coherent

variable {x : Index}

theorem exists_mem_definitions_iff (h : x.Coherent) (uri id : String) :
    (∃ d ∈ x.definitions.entries id, d.uri = uri) ↔ x.Defines uri id := by
  constructor
  · rintro ⟨d, hd, rfl⟩
    exact ⟨d, (h.definitions.mem_entries_iff id d).1 hd⟩
  · rintro ⟨d, hd, hid⟩
    have howner : d.uri = uri := h.definitions.owner_of_mem hd
    subst howner
    exact ⟨d, (h.definitions.mem_entries_iff id d).2 ⟨hd, hid⟩, rfl⟩

theorem exists_mem_references_iff (h : x.Coherent) (uri id : String) :
    (∃ r ∈ x.references.entries id, r.uri = uri) ↔ x.RefersTo uri id := by
  constructor
  · rintro ⟨r, hr, rfl⟩
    exact ⟨r, (h.references.mem_entries_iff id r).1 hr⟩
  · rintro ⟨r, hr, hid⟩
    have howner : r.uri = uri := h.references.owner_of_mem hr
    subst howner
    exact ⟨r, (h.references.mem_entries_iff id r).2 ⟨hr, hid⟩, rfl⟩

/-- An id stands in the ledger of definitions just if some file defines it. -/
theorem contains_definitions_iff (h : x.Coherent) (id : String) :
    x.definitions.contains id = true ↔ ∃ uri, x.Defines uri id := by
  rw [h.definitions.occupied.contains_eq, Bool.not_eq_true', List.isEmpty_eq_false_iff_exists_mem]
  constructor
  · rintro ⟨d, hd⟩
    exact ⟨d.uri, (h.exists_mem_definitions_iff d.uri id).1 ⟨d, hd, rfl⟩⟩
  · rintro ⟨uri, hdefines⟩
    obtain ⟨d, hd, _⟩ := (h.exists_mem_definitions_iff uri id).2 hdefines
    exact ⟨d, hd⟩

/-- An id stands in the ledger of references just if some file refers to it. -/
theorem contains_references_iff (h : x.Coherent) (id : String) :
    x.references.contains id = true ↔ ∃ uri, x.RefersTo uri id := by
  rw [h.references.occupied.contains_eq, Bool.not_eq_true', List.isEmpty_eq_false_iff_exists_mem]
  constructor
  · rintro ⟨r, hr⟩
    exact ⟨r.uri, (h.exists_mem_references_iff r.uri id).1 ⟨r, hr, rfl⟩⟩
  · rintro ⟨uri, hrefers⟩
    obtain ⟨r, hr, _⟩ := (h.exists_mem_references_iff uri id).2 hrefers
    exact ⟨r, hr⟩

end Coherent

/-- The links of a file as they are collected from its record. -/
theorem mem_linked_iff_entries (x : Index) (uri other : String) :
    other ∈ x.linked uri ↔
      (∃ d ∈ x.recorded FileRecord.definitions uri, ∃ r ∈ x.references.entries d.id, r.uri = other) ∨
      (∃ d ∈ x.recorded FileRecord.definitions uri, ∃ e ∈ x.definitions.entries d.id,
        e.uri ≠ uri ∧ e.uri = other) ∨
      ∃ r ∈ x.recorded FileRecord.references uri, ∃ d ∈ x.definitions.entries r.id, d.uri = other := by
  unfold linked recorded
  cases x.file? uri with
  | none => simp
  | some record =>
    simp only [Option.elim_some, Std.ExtTreeSet.mem_ofList, List.contains_iff_mem, List.mem_append,
      List.mem_flatMap, List.mem_map, List.mem_filter, bne_iff_ne, and_assoc, or_assoc]

/-- Two files are linked if they share an id, of which one at least is the definer. -/
theorem Coherent.mem_linked_iff {x : Index} (h : x.Coherent) (uri other : String) :
    other ∈ x.linked uri ↔
      ∃ id, (x.Defines uri id ∧ x.RefersTo other id) ∨ (x.Defines uri id ∧ x.Defines other id ∧ other ≠ uri) ∨
        (x.RefersTo uri id ∧ x.Defines other id) := by
  rw [mem_linked_iff_entries]
  constructor
  · rintro (⟨d, hd, hr⟩ | ⟨d, hd, e, he, hne, rfl⟩ | ⟨r, hr, hd⟩)
    · exact ⟨d.id, .inl ⟨⟨d, hd, rfl⟩, (h.exists_mem_references_iff other d.id).1 hr⟩⟩
    · exact ⟨d.id, .inr (.inl ⟨⟨d, hd, rfl⟩, (h.exists_mem_definitions_iff e.uri d.id).1 ⟨e, he, rfl⟩, hne⟩)⟩
    · exact ⟨r.id, .inr (.inr ⟨⟨r, hr, rfl⟩, (h.exists_mem_definitions_iff other r.id).1 hd⟩)⟩
  · rintro ⟨id, ⟨⟨d, hd, rfl⟩, hr⟩ | ⟨⟨d, hd, rfl⟩, he, hne⟩ | ⟨⟨r, hr, rfl⟩, hd⟩⟩
    · exact .inl ⟨d, hd, (h.exists_mem_references_iff other d.id).2 hr⟩
    · obtain ⟨e, hmem, rfl⟩ := (h.exists_mem_definitions_iff other d.id).2 he
      exact .inr (.inl ⟨d, hd, e, hmem, hne, rfl⟩)
    · exact .inr (.inr ⟨r, hr, (h.exists_mem_definitions_iff other r.id).2 hd⟩)

/-! ## What the findings of a file depend on -/

theorem fileOrFresh_congr {x y : Index} {uri : String} (hoptions : y.options = x.options)
    (hfile : y.file? uri = x.file? uri) : y.fileOrFresh uri = x.fileOrFresh uri := by
  unfold fileOrFresh
  rw [hfile, hoptions]

/-- Which definitions of a file are repetitions can be told from its record and the first entries under the ids it
defines. -/
theorem duplicates_congr {x y : Index} {uri : String} (hoptions : y.options = x.options)
    (hfile : y.file? uri = x.file? uri)
    (hfirst : ∀ d ∈ x.recorded FileRecord.definitions uri,
      (y.definitions.entries d.id).head? = (x.definitions.entries d.id).head?) :
    y.duplicates uri = x.duplicates uri := by
  rw [← fileOrFresh_definitions] at hfirst
  unfold duplicates
  rw [fileOrFresh_congr hoptions hfile]
  apply List.filterMap_congr
  intro d hd
  have hhead := hfirst d hd
  cases hx : x.definitions.entries d.id with
  | nil =>
    rw [hx, List.head?_nil, List.head?_eq_none_iff] at hhead
    rw [hhead]
  | cons first rest =>
    rw [hx, List.head?_cons, List.head?_eq_some_iff] at hhead
    obtain ⟨others, hy⟩ := hhead
    rw [hy, hoptions]

/-- Which references and definitions of a file lead nowhere can be told from its record, and from whether the ids it
uses stand in the other ledger. -/
theorem consistency_congr {x y : Index} {uri : String} (hoptions : y.options = x.options)
    (hfile : y.file? uri = x.file? uri)
    (hdefined : ∀ r ∈ x.recorded FileRecord.references uri,
      y.definitions.contains r.id = x.definitions.contains r.id)
    (hclaimed : ∀ d ∈ x.recorded FileRecord.definitions uri,
      y.references.contains d.id = x.references.contains d.id) :
    y.consistency uri = x.consistency uri := by
  rw [← fileOrFresh_definitions] at hclaimed
  rw [← fileOrFresh_references] at hdefined
  unfold consistency
  simp only [fileOrFresh_congr hoptions hfile]
  congr 2
  · apply List.filter_congr
    intro r hr
    rw [hdefined r hr]
  · apply List.filter_congr
    intro d hd
    rw [hclaimed d hd]

/-- The findings of a file can be told from its record, the first entries under the ids it defines, and whether the
ids it uses stand in the other ledger. -/
theorem revalidate_congr {x y : Index} {uri : String} (hoptions : y.options = x.options)
    (hfile : y.file? uri = x.file? uri)
    (hfirst : ∀ d ∈ x.recorded FileRecord.definitions uri,
      (y.definitions.entries d.id).head? = (x.definitions.entries d.id).head?)
    (hdefined : ∀ r ∈ x.recorded FileRecord.references uri,
      y.definitions.contains r.id = x.definitions.contains r.id)
    (hclaimed : ∀ d ∈ x.recorded FileRecord.definitions uri,
      y.references.contains d.id = x.references.contains d.id) :
    y.revalidate uri = x.revalidate uri := by
  unfold revalidate
  rw [hfile, duplicates_congr hoptions hfile hfirst, consistency_congr hoptions hfile hdefined hclaimed]

/-! ## Changes of one file -/

/-- The indices differ at most in what one file contributes. -/
structure DifferOnlyAt (uri : String) (x y : Index) : Prop where
  options : y.options = x.options
  file? : ∀ other, other ≠ uri → y.file? other = x.file? other
  definitions : ∀ id, (y.definitions.entries id).filter (fun d => !(d.uri == uri)) =
    (x.definitions.entries id).filter fun d => !(d.uri == uri)

theorem Coherent.differOnlyAt_load {x : Index} (h : x.Coherent) (uri text : String) :
    DifferOnlyAt uri x (x.load uri text) where
  options := x.options_load uri text
  file? := by
    intro other hne
    rw [file?_load, if_neg (Ne.symm hne)]
  definitions := by
    intro id
    have hadded : ((x.recordOf uri text).definitions.filter (·.id == id)).filter (fun d => !(d.uri == uri)) = [] := by
      rw [List.filter_eq_nil_iff]
      intro d hd
      have howner := x.uri_of_mem_recordOf_definitions (List.mem_filter.1 hd).1
      simp [howner]
    rw [h.entries_load_definitions, List.filter_append, hadded, List.append_nil, List.filter_filter]
    simp only [Bool.and_self]

theorem Coherent.differOnlyAt_remove {x : Index} (h : x.Coherent) (uri : String) :
    DifferOnlyAt uri x (x.remove uri) where
  options := x.options_remove uri
  file? := by
    intro other hne
    rw [file?_remove, if_neg (Ne.symm hne)]
  definitions := by
    intro id
    have hentries : (x.remove uri).definitions.entries id = (x.purge uri).definitions.entries id := rfl
    rw [hentries, h.entries_purge_definitions, List.filter_filter]
    simp only [Bool.and_self]

section Change

variable {x y : Index} {uri : String}

/-- If a file defines an id neither before nor after the change, the same files define it. -/
theorem DifferOnlyAt.exists_defines_iff (h : DifferOnlyAt uri x y) {id : String} (hbefore : ¬ x.Defines uri id)
    (hafter : ¬ y.Defines uri id) : (∃ other, y.Defines other id) ↔ ∃ other, x.Defines other id := by
  have hiff : ∀ other, y.Defines other id ↔ x.Defines other id := by
    intro other
    by_cases hother : other = uri
    · subst hother
      exact ⟨fun hd => absurd hd hafter, fun hd => absurd hd hbefore⟩
    · exact defines_congr (h.file? other hother) id
  exact exists_congr hiff

/-- If a file refers to an id neither before nor after the change, the same files refer to it. -/
theorem DifferOnlyAt.exists_refersTo_iff (h : DifferOnlyAt uri x y) {id : String} (hbefore : ¬ x.RefersTo uri id)
    (hafter : ¬ y.RefersTo uri id) : (∃ other, y.RefersTo other id) ↔ ∃ other, x.RefersTo other id := by
  have hiff : ∀ other, y.RefersTo other id ↔ x.RefersTo other id := by
    intro other
    by_cases hother : other = uri
    · subst hother
      exact ⟨fun hr => absurd hr hafter, fun hr => absurd hr hbefore⟩
    · exact refersTo_congr (h.file? other hother) id
  exact exists_congr hiff

/-- Where a file defines nothing under an id, leaving out its entries leaves out nothing. -/
theorem Coherent.filter_entries_of_not_defines (h : x.Coherent) {id : String} (hnot : ¬ x.Defines uri id) :
    (x.definitions.entries id).filter (fun d => !(d.uri == uri)) = x.definitions.entries id := by
  rw [List.filter_eq_self]
  intro d hd
  have hne : d.uri ≠ uri := by
    intro hd'
    exact hnot ((h.exists_mem_definitions_iff uri id).1 ⟨d, hd, hd'⟩)
  simpa using hne

/-- A change of one file leaves the findings of every other file as they were, unless the two are linked before or
after the change. -/
theorem DifferOnlyAt.revalidate_eq (h : DifferOnlyAt uri x y) (hx : x.Coherent) (hy : y.Coherent) {other : String}
    (hne : other ≠ uri) (hbefore : other ∉ x.linked uri) (hafter : other ∉ y.linked uri) :
    y.revalidate other = x.revalidate other := by
  rw [hx.mem_linked_iff] at hbefore
  rw [hy.mem_linked_iff] at hafter
  have hfile := h.file? other hne
  -- An id that the other file uses is not used by the changed one in a way that links the two.
  apply revalidate_congr h.options hfile
  · intro d hd
    have hdefines : x.Defines other d.id := ⟨d, hd, rfl⟩
    have hdefines' : y.Defines other d.id := (defines_congr hfile d.id).2 hdefines
    have hnot : ¬ x.Defines uri d.id :=
      fun hu => hbefore ⟨d.id, .inr (.inl ⟨hu, hdefines, hne⟩)⟩
    have hnot' : ¬ y.Defines uri d.id :=
      fun hu => hafter ⟨d.id, .inr (.inl ⟨hu, hdefines', hne⟩)⟩
    rw [← hx.filter_entries_of_not_defines hnot, ← hy.filter_entries_of_not_defines hnot', h.definitions d.id]
  · intro r hr
    have hrefers : x.RefersTo other r.id := ⟨r, hr, rfl⟩
    have hrefers' : y.RefersTo other r.id := (refersTo_congr hfile r.id).2 hrefers
    have hnot : ¬ x.Defines uri r.id := fun hu => hbefore ⟨r.id, .inl ⟨hu, hrefers⟩⟩
    have hnot' : ¬ y.Defines uri r.id := fun hu => hafter ⟨r.id, .inl ⟨hu, hrefers'⟩⟩
    rw [Bool.eq_iff_iff, hx.contains_definitions_iff, hy.contains_definitions_iff]
    exact h.exists_defines_iff hnot hnot'
  · intro d hd
    have hdefines : x.Defines other d.id := ⟨d, hd, rfl⟩
    have hdefines' : y.Defines other d.id := (defines_congr hfile d.id).2 hdefines
    have hnot : ¬ x.RefersTo uri d.id := fun hu => hbefore ⟨d.id, .inr (.inr ⟨hu, hdefines⟩)⟩
    have hnot' : ¬ y.RefersTo uri d.id := fun hu => hafter ⟨d.id, .inr (.inr ⟨hu, hdefines'⟩)⟩
    rw [Bool.eq_iff_iff, hx.contains_references_iff, hy.contains_references_iff]
    exact h.exists_refersTo_iff hnot hnot'

end Change

/-! ## Links go both ways -/

theorem isSome_file?_of_mem_recorded {α : Type} {part : FileRecord → List α} {x : Index} {uri : String} {a : α}
    (h : a ∈ x.recorded part uri) : (x.file? uri).isSome = true := by
  unfold recorded at h
  cases hfile : x.file? uri with
  | none =>
    rw [hfile] at h
    cases h
  | some record => rfl

namespace Coherent

variable {x : Index}

/-- A file that is linked to another one uses an id, so it has a record. -/
theorem isSome_file?_of_mem_linked (h : x.Coherent) {uri other : String} (hlinked : other ∈ x.linked uri) :
    (x.file? other).isSome = true := by
  rw [h.mem_linked_iff] at hlinked
  obtain ⟨id, ⟨_, r, hr, _⟩ | ⟨_, ⟨d, hd, _⟩, _⟩ | ⟨_, d, hd, _⟩⟩ := hlinked
  · exact isSome_file?_of_mem_recorded hr
  · exact isSome_file?_of_mem_recorded hd
  · exact isSome_file?_of_mem_recorded hd

/-- Seen from the other file, its definitions become references and its references definitions. -/
theorem mem_linked_symm (h : x.Coherent) {uri other : String} (hlinked : other ∈ x.linked uri) :
    uri ∈ x.linked other := by
  rw [h.mem_linked_iff] at hlinked ⊢
  obtain ⟨id, ⟨hdefines, hrefers⟩ | ⟨hdefines, hdefines', hne⟩ | ⟨hrefers, hdefines⟩⟩ := hlinked
  · exact ⟨id, .inr (.inr ⟨hrefers, hdefines⟩)⟩
  · exact ⟨id, .inr (.inl ⟨hdefines', hdefines, Ne.symm hne⟩)⟩
  · exact ⟨id, .inl ⟨hdefines, hrefers⟩⟩

end Coherent

/-- Nothing is linked to a file that is not there. -/
theorem linked_eq_empty {x : Index} {uri : String} (h : x.file? uri = none) : x.linked uri = ∅ := by
  unfold linked
  rw [h]

namespace Coherent

variable {x : Index}

theorem revalidate_load_eq (h : x.Coherent) {uri text other : String} (hne : other ≠ uri)
    (hbefore : other ∉ x.linked uri) (hafter : other ∉ (x.load uri text).linked uri) :
    (x.load uri text).revalidate other = x.revalidate other :=
  (h.differOnlyAt_load uri text).revalidate_eq h (h.load uri text) hne hbefore hafter

theorem revalidate_remove_eq (h : x.Coherent) {uri other : String} (hne : other ≠ uri)
    (hbefore : other ∉ x.linked uri) : (x.remove uri).revalidate other = x.revalidate other := by
  have hgone : (x.remove uri).linked uri = ∅ := by
    apply linked_eq_empty
    rw [file?_remove, if_pos rfl]
  refine (h.differOnlyAt_remove uri).revalidate_eq h (h.remove uri) hne hbefore ?_
  rw [hgone]
  exact Std.ExtTreeSet.not_mem_empty

end Coherent

/-- After any calls on a new index: if analysing a file changes the findings of another one, the other one is
linked to it before or after; and if removing it does, the other one is linked to it before. -/
theorem mem_linked_of_revalidate_ne (options : Options) (mutations : List Mutation) (uri other : String)
    (hne : other ≠ uri) :
    let x := (empty options).mutateAll mutations
    (∀ text, (x.analyze uri text).1.revalidate other ≠ x.revalidate other →
        other ∈ x.linked uri ∨ other ∈ (x.analyze uri text).1.linked uri) ∧
      ((x.remove uri).revalidate other ≠ x.revalidate other → other ∈ x.linked uri) := by
  intro x
  have h : x.Coherent := (coherent_empty options).mutateAll mutations
  constructor
  · intro text hchanged
    rw [analyze_fst] at hchanged ⊢
    by_contra hnot
    obtain ⟨hbefore, hafter⟩ := not_or.1 hnot
    exact hchanged (h.revalidate_load_eq hne hbefore hafter)
  · intro hchanged
    by_contra hbefore
    exact hchanged (h.revalidate_remove_eq hne hbefore)

/-- A document that loses its only requirement, by an edit or altogether, leaves a reference to it unresolved. -/
theorem mem_linked_of_lost_requirement :
    let document := "# *x*\n\n**A** The x **shall** go.\n"
    let x := (empty {}).mutateAll
      [.file (.load "a.shalldn" document), .file (.load "b.rs" "// $$Implements A\n"), .file .validateAll]
    "b.rs" ≠ "a.shalldn" ∧
      (x.analyze "a.shalldn" "# *x*\n").1.revalidate "b.rs" ≠ x.revalidate "b.rs" ∧
      (x.remove "a.shalldn").revalidate "b.rs" ≠ x.revalidate "b.rs" ∧
      ("b.rs" ∈ x.linked "a.shalldn" ∨ "b.rs" ∈ (x.analyze "a.shalldn" "# *x*\n").1.linked "a.shalldn") ∧
      "b.rs" ∈ x.linked "a.shalldn" := by
  intro document x
  have hne : "b.rs" ≠ "a.shalldn" := by decide
  have hanalyzed : (x.analyze "a.shalldn" "# *x*\n").1.revalidate "b.rs" ≠ x.revalidate "b.rs" := by
    decide +kernel
  have hremoved : (x.remove "a.shalldn").revalidate "b.rs" ≠ x.revalidate "b.rs" := by
    decide +kernel
  obtain ⟨hanalyze, hremove⟩ := mem_linked_of_revalidate_ne {}
    [.file (.load "a.shalldn" document), .file (.load "b.rs" "// $$Implements A\n"), .file .validateAll]
    "a.shalldn" "b.rs" hne
  exact ⟨hne, hanalyzed, hremoved, hanalyze _ hanalyzed, hremove hremoved⟩

/-- After any calls on a new index: one file is linked to another one just if the other one is linked to it; whatever is
linked to a file has a record; and nothing is linked to a file without one. -/
theorem mem_linked_comm (options : Options) (mutations : List Mutation) (uri other : String) :
    let x := (empty options).mutateAll mutations
    (other ∈ x.linked uri ↔ uri ∈ x.linked other) ∧
      (other ∈ x.linked uri → (x.file? other).isSome = true) ∧
      (x.file? uri = none → x.linked uri = ∅) := by
  intro x
  have h : x.Coherent := (coherent_empty options).mutateAll mutations
  exact ⟨⟨h.mem_linked_symm, h.mem_linked_symm⟩, h.isSome_file?_of_mem_linked, linked_eq_empty⟩

/-- A document that a single reference links to a file: the file is linked to it in turn. -/
theorem mem_linked_comm_of_reference :
    let x := (empty {}).mutateAll
      [.addReferences "b.rs" ⟨⟨0, 0⟩, ⟨0, 1⟩⟩ ["A"],
        .file (.analyze "a.shalldn" "# *x*\n\n**A** The x **shall** go.\n")]
    "a.shalldn" ∈ x.linked "b.rs" ∧ "b.rs" ∈ x.linked "a.shalldn" ∧ (x.file? "a.shalldn").isSome = true ∧
      x.file? "c.rs" = none ∧ x.linked "c.rs" = ∅ := by
  intro x
  have hlinked : "a.shalldn" ∈ x.linked "b.rs" := by
    decide +kernel
  have hunknown : x.file? "c.rs" = none := by
    decide +kernel
  obtain ⟨hcomm, hrecord, _⟩ := mem_linked_comm {}
    [.addReferences "b.rs" ⟨⟨0, 0⟩, ⟨0, 1⟩⟩ ["A"],
      .file (.analyze "a.shalldn" "# *x*\n\n**A** The x **shall** go.\n")] "b.rs" "a.shalldn"
  obtain ⟨_, _, hnothing⟩ := mem_linked_comm {}
    [.addReferences "b.rs" ⟨⟨0, 0⟩, ⟨0, 1⟩⟩ ["A"],
      .file (.analyze "a.shalldn" "# *x*\n\n**A** The x **shall** go.\n")] "c.rs" "b.rs"
  exact ⟨hlinked, hcomm.1 hlinked, hrecord hlinked, hunknown, hnothing hunknown⟩

end Traceability.Index
