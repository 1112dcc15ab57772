import Traceability.Index.Basic
import Traceability.Proofs.Index.Mirror
set_option autoImplicit false

/-!
# Calls of an index

The calls that change an index, the runs of such calls, and what each single call does.  Loading a file is put
into one equation, `load_eq`: the file is taken out of both ledgers, and then the record of its new text takes
the place of the old one and is pushed onto the ledgers.  All later theorems on indices rest on this equation
and do not open the definition again.
-/

namespace Traceability

/-- A call about one whole file or about all files. -/
inductive FileCall where
  | load (uri text : String)
  | analyze (uri text : String)
  | remove (uri : String)
  /-- Asks for the findings of a file. -/
  | revalidate (uri : String)
  | validateAll
  deriving DecidableEq, Repr, Inhabited

/-- A call that changes an index. -/
inductive Mutation where
  | file (call : FileCall)
  | addDefinition (d : Definition)
  | addReferences (uri : String) (range : Text.Range) (ids : List String)
  deriving DecidableEq, Repr, Inhabited

namespace Index

/-- The index after a call about files. -/
def call (x : Index) : FileCall → Index
  | .load uri text => x.load uri text
  | .analyze uri text => (x.analyze uri text).1
  | .remove uri => x.remove uri
  | .revalidate _ => x
  | .validateAll => x.validateAll.1

/-- The index after a call. -/
def mutate (x : Index) : Mutation → Index
  | .file c => x.call c
  | .addDefinition d => (x.addDefinition d).1
  | .addReferences uri range ids => x.addReferences uri range ids

/-- The index after some calls about files. -/
def callAll (x : Index) (calls : List FileCall) : Index := calls.foldl call x

/-- The index after some calls. -/
def mutateAll (x : Index) (mutations : List Mutation) : Index := mutations.foldl mutate x

/-! ## Single contributions -/

theorem addDefinition_of_isEmpty (x : Index) {d : Definition} (h : d.id.isEmpty = true) :
    x.addDefinition d = (x, .missingIdentifier) := by
  unfold addDefinition
  rw [if_pos h]

/-- A definition with an id is always inserted, whatever the outcome says. -/
theorem addDefinition_of_named (x : Index) {d : Definition} (h : d.id.isEmpty = false) :
    ∃ outcome, outcome ≠ .missingIdentifier ∧ x.addDefinition d = (x.insertDefinition d, outcome) := by
  unfold addDefinition
  rw [if_neg (by simp [h])]
  cases x.findDefinition d.id with
  | nil => exact ⟨.added, by simp, rfl⟩
  | cons first rest => exact ⟨.duplicate d.id first, by simp, rfl⟩

/-- One step of `addDefinitions`: the index and the findings so far, after one more definition. -/
def addOne (state : Index × List Finding) (d : Definition) : Index × List Finding :=
  match state.1.addDefinition d with
  | (x, .missingIdentifier) => (x, state.2 ++ [.missingIdentifier d.range])
  | (x, _) => (x, state.2)

theorem addDefinitions_eq_foldl (x : Index) (ds : List Definition) :
    x.addDefinitions ds = ds.foldl addOne (x, []) := rfl

theorem addOne_of_isEmpty (x : Index) (findings : List Finding) {d : Definition} (h : d.id.isEmpty = true) :
    addOne (x, findings) d = (x, findings ++ [.missingIdentifier d.range]) := by
  unfold addOne
  rw [addDefinition_of_isEmpty x h]

theorem addOne_of_named (x : Index) (findings : List Finding) {d : Definition} (h : d.id.isEmpty = false) :
    addOne (x, findings) d = (x.insertDefinition d, findings) := by
  obtain ⟨outcome, houtcome, hadd⟩ := x.addDefinition_of_named h
  unfold addOne
  rw [hadd]
  cases outcome with
  | added => rfl
  | duplicate id first => rfl
  | missingIdentifier => exact absurd rfl houtcome

/-! ## What a text contributes -/

/-- The record that the text of a file gives. -/
def recordOf (x : Index) (uri text : String) : FileRecord :=
  let extraction := x.extract uri text
  { kind := x.options.fileKind uri
    subject := extraction.subject
    definitions := extraction.definitions.filter fun d => !d.id.isEmpty
    references := extraction.references
    findings := extraction.findings ++
      (extraction.definitions.filter (·.id.isEmpty)).map fun d => .missingIdentifier d.range }

/-- The record of a text depends on the options alone. -/
theorem recordOf_congr {x y : Index} (h : x.options = y.options) : x.recordOf = y.recordOf := by
  funext uri text
  unfold recordOf extract
  rw [h]

theorem uri_of_mem_definitionsOf {uri : String} {block : Document.Block} {d : Definition}
    (h : d ∈ Extraction.definitionsOf uri block) : d.uri = uri := by
  unfold Extraction.definitionsOf at h
  split at h
  · rw [List.mem_singleton] at h
    rw [h]
  · rw [List.mem_singleton] at h
    rw [h]
  · exact absurd h List.not_mem_nil

theorem uri_of_mem_referencesOf {uri : String} {block : Document.Block} {r : Reference}
    (h : r ∈ Extraction.referencesOf uri block) : r.uri = uri := by
  unfold Extraction.referencesOf at h
  split at h
  · obtain ⟨item, _, hr⟩ := List.mem_flatMap.1 h
    cases item with
    | text range => exact absurd hr List.not_mem_nil
    | link range targets =>
      obtain ⟨id, _, rfl⟩ := List.mem_map.1 hr
      rfl
  · exact absurd h List.not_mem_nil

/-- Whatever is extracted from a file belongs to this file. -/
theorem uri_of_mem_extract_definitions (x : Index) {uri text : String} {d : Definition}
    (h : d ∈ (x.extract uri text).definitions) : d.uri = uri := by
  unfold extract at h
  split at h
  · obtain ⟨block, _, hd⟩ := List.mem_flatMap.1 h
    exact uri_of_mem_definitionsOf hd
  · exact absurd h List.not_mem_nil

theorem uri_of_mem_extract_references (x : Index) {uri text : String} {r : Reference}
    (h : r ∈ (x.extract uri text).references) : r.uri = uri := by
  unfold extract at h
  split at h
  · obtain ⟨block, _, hr⟩ := List.mem_flatMap.1 h
    exact uri_of_mem_referencesOf hr
  · obtain ⟨line, _, hr⟩ := List.mem_flatMap.1 h
    obtain ⟨item, _, rfl⟩ := List.mem_map.1 hr
    rfl

theorem uri_of_mem_recordOf_definitions (x : Index) {uri text : String} {d : Definition}
    (h : d ∈ (x.recordOf uri text).definitions) : d.uri = uri :=
  x.uri_of_mem_extract_definitions (List.mem_filter.1 h).1

theorem uri_of_mem_recordOf_references (x : Index) {uri text : String} {r : Reference}
    (h : r ∈ (x.recordOf uri text).references) : r.uri = uri :=
  x.uri_of_mem_extract_references h

theorem id_ne_empty_of_mem_recordOf (x : Index) {uri text : String} {d : Definition}
    (h : d ∈ (x.recordOf uri text).definitions) : d.id ≠ "" := by
  have hnamed := (List.mem_filter.1 h).2
  simpa using hnamed

/-! ## Loading -/

theorem insert_insert (files : Std.ExtTreeMap String FileRecord) (uri : String) (r r' : FileRecord) :
    (files.insert uri r).insert uri r' = files.insert uri r' := by
  apply Std.ExtTreeMap.ext_getElem?
  intro key
  rw [Std.ExtTreeMap.getElem?_insert, Std.ExtTreeMap.getElem?_insert, Std.ExtTreeMap.getElem?_insert]
  split <;> rfl

/-- The record that was just put into an index is found there, whatever its other parts are. -/
theorem fileOrFresh_insert (options : Options) (phase : Phase) (definitions : Ledger Definition)
    (references : Ledger Reference) (files : Std.ExtTreeMap String FileRecord) (uri : String)
    (record : FileRecord) :
    fileOrFresh ⟨options, phase, definitions, references, files.insert uri record⟩ uri = record := by
  unfold fileOrFresh file?
  rw [Std.ExtTreeMap.getElem?_insert_self]
  rfl

theorem insertDefinition_insert (x : Index) (files : Std.ExtTreeMap String FileRecord) (record : FileRecord)
    (d : Definition) :
    insertDefinition { x with files := files.insert d.uri record } d =
      { x with
        definitions := x.definitions.push d.id d
        files := files.insert d.uri { record with definitions := record.definitions ++ [d] } } := by
  unfold insertDefinition
  simp only [fileOrFresh_insert, insert_insert]

theorem insertReference_insert (x : Index) (files : Std.ExtTreeMap String FileRecord) (record : FileRecord)
    (r : Reference) :
    insertReference { x with files := files.insert r.uri record } r =
      { x with
        references := x.references.push r.id r
        files := files.insert r.uri { record with references := record.references ++ [r] } } := by
  unfold insertReference
  simp only [fileOrFresh_insert, insert_insert]

/-- Definitions that all belong to one file of the index go to its record and to the ledger, those without an id
apart. -/
theorem foldl_addOne_insert (x : Index) (files : Std.ExtTreeMap String FileRecord) (record : FileRecord)
    (findings : List Finding) {uri : String} {ds : List Definition} (howner : ∀ d ∈ ds, d.uri = uri) :
    ds.foldl addOne ({ x with files := files.insert uri record }, findings) =
      ({ x with
          definitions := Ledger.pushAll Definition.id (ds.filter fun d => !d.id.isEmpty) x.definitions
          files := files.insert uri
            { record with definitions := record.definitions ++ ds.filter fun d => !d.id.isEmpty } },
        findings ++ (ds.filter (·.id.isEmpty)).map fun d => .missingIdentifier d.range) := by
  induction ds generalizing x record findings with
  | nil => simp [Ledger.pushAll]
  | cons d rest ih =>
    obtain ⟨rfl, hrest⟩ := List.forall_mem_cons.1 howner
    rw [List.foldl_cons]
    cases hid : d.id.isEmpty with
    | true =>
      rw [addOne_of_isEmpty _ findings hid, ih x record _ hrest]
      simp [hid]
    | false =>
      rw [addOne_of_named _ findings hid, insertDefinition_insert,
        ih { x with definitions := x.definitions.push d.id d } _ findings hrest]
      simp [hid, Ledger.pushAll]

/-- References that all belong to one file of the index go to its record and to the ledger. -/
theorem foldl_insertReference_insert (x : Index) (files : Std.ExtTreeMap String FileRecord)
    (record : FileRecord) {uri : String} {rs : List Reference} (howner : ∀ r ∈ rs, r.uri = uri) :
    rs.foldl insertReference { x with files := files.insert uri record } =
      { x with
        references := Ledger.pushAll Reference.id rs x.references
        files := files.insert uri { record with references := record.references ++ rs } } := by
  induction rs generalizing x record with
  | nil => simp [Ledger.pushAll]
  | cons r rest ih =>
    obtain ⟨rfl, hrest⟩ := List.forall_mem_cons.1 howner
    rw [List.foldl_cons, insertReference_insert,
      ih { x with references := x.references.push r.id r } _ hrest]
    simp [Ledger.pushAll]

/-- Taking out a file that is not there changes nothing, so no case needs to be told apart. -/
theorem purge_eq (x : Index) (uri : String) :
    x.purge uri =
      { x with
        definitions := Ledger.pruneAll Definition.id Definition.uri uri (x.fileOrFresh uri).definitions x.definitions
        references := Ledger.pruneAll Reference.id Reference.uri uri (x.fileOrFresh uri).references x.references } := by
  unfold purge fileOrFresh
  cases x.file? uri with
  | none => rfl
  | some record => rfl

/-- A file is taken out of both ledgers, and then the record of its new text takes the place of the old one and
is pushed onto the ledgers. -/
theorem load_eq (x : Index) (uri text : String) :
    x.load uri text =
      { x with
        definitions := Ledger.pushAll Definition.id (x.recordOf uri text).definitions (x.purge uri).definitions
        references := Ledger.pushAll Reference.id (x.recordOf uri text).references (x.purge uri).references
        files := x.files.insert uri (x.recordOf uri text) } := by
  have hdefinitions : ∀ d ∈ (x.extract uri text).definitions, d.uri = uri :=
    fun _ hd => x.uri_of_mem_extract_definitions hd
  have hreferences : ∀ r ∈ (x.extract uri text).references, r.uri = uri :=
    fun _ hr => x.uri_of_mem_extract_references hr
  have hreferred := foldl_insertReference_insert
    { x.purge uri with
      definitions := Ledger.pushAll Definition.id (x.recordOf uri text).definitions (x.purge uri).definitions }
    (x.purge uri).files
    { kind := x.options.fileKind uri
      subject := (x.extract uri text).subject
      definitions := [] ++ (x.recordOf uri text).definitions }
    hreferences
  simp only at hreferred
  unfold load
  simp only [addDefinitions_eq_foldl]
  rw [foldl_addOne_insert (x.purge uri) (x.purge uri).files _ [] hdefinitions]
  unfold recordOf at hreferred ⊢
  simp only [hreferred, fileOrFresh_insert, insert_insert]
  rw [purge_eq]
  rfl

/-- Analysing a file changes the index as loading it does. -/
theorem analyze_fst (x : Index) (uri text : String) : (x.analyze uri text).1 = x.load uri text := by
  unfold analyze
  simp only
  split <;> rfl

theorem call_analyze (x : Index) (uri text : String) : x.call (.analyze uri text) = x.load uri text :=
  x.analyze_fst uri text

/-! ## The record of a file after a call -/

@[simp] theorem file?_empty (options : Options) (uri : String) : (empty options).file? uri = none := by
  unfold empty file?
  exact Std.ExtTreeMap.getElem?_empty

theorem fileOrFresh_of_file?_eq_some {x : Index} {uri : String} {record : FileRecord}
    (h : x.file? uri = some record) : x.fileOrFresh uri = record := by
  unfold fileOrFresh
  rw [h, Option.getD_some]

theorem file?_insertDefinition (x : Index) (d : Definition) (uri : String) :
    (x.insertDefinition d).file? uri =
      if d.uri = uri then
        some { x.fileOrFresh d.uri with definitions := (x.fileOrFresh d.uri).definitions ++ [d] }
      else x.file? uri := by
  unfold insertDefinition file?
  simp only [Std.ExtTreeMap.getElem?_insert, Std.LawfulEqCmp.compare_eq_iff_eq]

theorem file?_insertReference (x : Index) (r : Reference) (uri : String) :
    (x.insertReference r).file? uri =
      if r.uri = uri then
        some { x.fileOrFresh r.uri with references := (x.fileOrFresh r.uri).references ++ [r] }
      else x.file? uri := by
  unfold insertReference file?
  simp only [Std.ExtTreeMap.getElem?_insert, Std.LawfulEqCmp.compare_eq_iff_eq]

theorem file?_load (x : Index) (uri text other : String) :
    (x.load uri text).file? other = if uri = other then some (x.recordOf uri text) else x.file? other := by
  rw [load_eq]
  unfold file?
  simp only [Std.ExtTreeMap.getElem?_insert, Std.LawfulEqCmp.compare_eq_iff_eq]

theorem file?_load_self (x : Index) (uri text : String) :
    (x.load uri text).file? uri = some (x.recordOf uri text) := by
  rw [file?_load, if_pos rfl]

theorem file?_remove (x : Index) (uri other : String) :
    (x.remove uri).file? other = if uri = other then none else x.file? other := by
  unfold remove file?
  rw [purge_eq]
  simp only [Std.ExtTreeMap.getElem?_erase, Std.LawfulEqCmp.compare_eq_iff_eq]

@[simp] theorem options_load (x : Index) (uri text : String) : (x.load uri text).options = x.options := by
  rw [load_eq]

@[simp] theorem phase_load (x : Index) (uri text : String) : (x.load uri text).phase = x.phase := by
  rw [load_eq]

@[simp] theorem options_remove (x : Index) (uri : String) : (x.remove uri).options = x.options := by
  unfold remove
  rw [purge_eq]

@[simp] theorem phase_remove (x : Index) (uri : String) : (x.remove uri).phase = x.phase := by
  unfold remove
  rw [purge_eq]

/-! ## Findings of single files -/

section Analysis

variable (x : Index) (uri text : String)

/-- The findings of a file are those of its text by itself, its repeated ids, and those that depend on other files. -/
theorem revalidate_load :
    (x.load uri text).revalidate uri =
      some ((x.recordOf uri text).findings ++ (x.load uri text).duplicates uri ++ (x.load uri text).consistency uri) := by
  unfold revalidate
  rw [x.file?_load_self uri text, Option.map_some]

theorem contains_files (uri : String) : x.files.contains uri = (x.file? uri).isSome :=
  Std.ExtTreeMap.contains_eq_isSome_getElem?

/-- An analysis tells the last part of them if the project is known, or if the file was seen before. -/
theorem analyze_snd :
    (x.analyze uri text).2 =
      (x.recordOf uri text).findings ++ (x.load uri text).duplicates uri ++
        if x.phase = .ready ∨ (x.file? uri).isSome = true then (x.load uri text).consistency uri else [] := by
  unfold analyze
  simp only [fileOrFresh_of_file?_eq_some (x.file?_load_self uri text), contains_files, Bool.or_eq_true,
    decide_eq_true_eq]
  split
  · rfl
  · rw [List.append_nil]

/-- Once the project is known, an analysis tells all findings of its file. -/
theorem revalidate_load_self {x : Index} (hready : x.phase = .ready) (uri text : String) :
    (x.load uri text).revalidate uri = some (x.analyze uri text).2 := by
  rw [revalidate_load, analyze_snd, if_pos (.inl hready)]

end Analysis

/-! ## Findings of all files -/

theorem isSome_file?_of_revalidate {x : Index} {uri : String} {findings : List Finding}
    (h : x.revalidate uri = some findings) : (x.file? uri).isSome = true := by
  unfold revalidate at h
  obtain ⟨record, hrecord, _⟩ := Option.map_eq_some_iff.1 h
  rw [hrecord]
  rfl

/-- The findings of a whole project are those of all its files. -/
theorem mem_validateAll_iff (x : Index) (item : String × List Finding) :
    item ∈ x.validateAll.2 ↔ x.validateAll.1.revalidate item.1 = some item.2 := by
  unfold validateAll
  rw [List.mem_filterMap]
  constructor
  · rintro ⟨uri, _, hitem⟩
    obtain ⟨findings, hfindings, rfl⟩ := Option.map_eq_some_iff.1 hitem
    exact hfindings
  · intro hfindings
    refine ⟨item.1, ?_, ?_⟩
    · have hfile := isSome_file?_of_revalidate hfindings
      unfold file? at hfile
      rw [Std.ExtTreeMap.mem_keys, Std.ExtTreeMap.mem_iff_isSome_getElem?]
      exact hfile
    · rw [hfindings]
      rfl

end Index

end Traceability
