import Mathlib.Data.List.Basic
import Traceability.Proofs.Index.Calls
set_option autoImplicit false

/-!
# Remarks on findings

Whether findings carry remarks about other places is an option of an index.  Two indices that differ in this option
alone are asked the same things, one after the other.  They give the same answers and hold the same, as long as one
does not look at the remarks themselves.

The relation that every request keeps is `SameButRemarks`: equal ledgers, and records that are equal once the remarks
on their findings are dropped.
-/

namespace Traceability

/-! ## Findings without remarks -/

/-- A finding without its remarks. -/
def Finding.bare (f : Finding) : Finding := { f with remarks := [] }

/-- An extraction without remarks on its findings. -/
def Extraction.bare (e : Extraction) : Extraction := { e with findings := e.findings.map Finding.bare }

/-- A record without remarks on its findings. -/
def FileRecord.bare (r : FileRecord) : FileRecord := { r with findings := r.findings.map Finding.bare }

@[simp] theorem FileRecord.definitions_bare (r : FileRecord) : r.bare.definitions = r.definitions := rfl

@[simp] theorem FileRecord.references_bare (r : FileRecord) : r.bare.references = r.references := rfl

@[simp] theorem FileRecord.findings_bare (r : FileRecord) : r.bare.findings = r.findings.map Finding.bare := rfl

/-- Whether the words of a syntax fault are kept in a remark is all that the uri for remarks decides. -/
theorem Extraction.bare_ofText (uri text : String) (remarkUri other : Option String) :
    (Extraction.ofText uri text remarkUri).bare = (Extraction.ofText uri text other).bare := by
  have hfault : Finding.bare ∘ (Document.SyntaxFault.toFinding · remarkUri) =
      Finding.bare ∘ (Document.SyntaxFault.toFinding · other) := rfl
  unfold Extraction.ofText Extraction.ofDocument Extraction.bare
  simp only [List.map_append, List.map_map, hfault]

namespace Index

/-! ## Requests -/

/-- Something that an index is asked: a call about files, or which files are linked to a file. -/
inductive Request where
  | call (c : FileCall)
  | linked (uri : String)
  deriving DecidableEq, Repr, Inhabited

/-- What an index answers. -/
inductive Answer where
  /-- Nothing: the request only changes the index. -/
  | done
  /-- The findings of a file; none if the file is not known. -/
  | findings (findings : Option (List Finding))
  /-- The findings of all files. -/
  | allFindings (findings : List (String × List Finding))
  | linked (uris : Std.ExtTreeSet String)

/-- An answer without remarks on its findings. -/
def Answer.bare : Answer → Answer
  | done => done
  | findings list => findings (list.map (List.map Finding.bare))
  | allFindings list => allFindings (list.map (Prod.map id (List.map Finding.bare)))
  | linked uris => linked uris

/-- The index after a request. -/
def proceed (x : Index) : Request → Index
  | .call c => x.call c
  | .linked _ => x

/-- What an index answers to a request. -/
def answer (x : Index) : Request → Answer
  | .call (.load _ _) => .done
  | .call (.analyze uri text) => .findings (some (x.analyze uri text).2)
  | .call (.remove _) => .done
  | .call (.revalidate uri) => .findings (x.revalidate uri)
  | .call .validateAll => .allFindings x.validateAll.2
  | .linked uri => .linked (x.linked uri)

/-- The index after some requests. -/
def proceedAll (x : Index) (requests : List Request) : Index := requests.foldl proceed x

/-- What an index answers to some requests, one after the other. -/
def answers (x : Index) : List Request → List Answer
  | [] => []
  | request :: rest => x.answer request :: (x.proceed request).answers rest

/-! ## Indices that differ in remarks -/

/-- The indices hold the same, and have the same options, apart from remarks. -/
structure SameButRemarks (x y : Index) : Prop where
  options : { y.options with relatedInformation := x.options.relatedInformation } = x.options
  phase : y.phase = x.phase
  definitions : y.definitions = x.definitions
  references : y.references = x.references
  files : ∀ uri, (y.file? uri).map FileRecord.bare = (x.file? uri).map FileRecord.bare

namespace SameButRemarks

variable {x y : Index}

theorem empty (options : Options) (flag : Bool) :
    SameButRemarks (empty options) (Index.empty { options with relatedInformation := flag }) where
  options := rfl
  phase := rfl
  definitions := rfl
  references := rfl
  files := by
    intro uri
    rw [file?_empty, file?_empty]

/-! ## Records -/

theorem fileKind (h : SameButRemarks x y) (uri : String) : y.options.fileKind uri = x.options.fileKind uri := by
  rw [← h.options]
  rfl

theorem marker (h : SameButRemarks x y) : y.options.marker = x.options.marker := by
  rw [← h.options]

theorem bare_fileOrFresh (h : SameButRemarks x y) (uri : String) :
    (y.fileOrFresh uri).bare = (x.fileOrFresh uri).bare := by
  have hfiles := h.files uri
  unfold fileOrFresh
  rw [h.fileKind]
  cases hx : x.file? uri with
  | none =>
    rw [hx, Option.map_none, Option.map_eq_none_iff] at hfiles
    rw [hfiles]
  | some record =>
    rw [hx, Option.map_some] at hfiles
    obtain ⟨other, hy, hbare⟩ := Option.map_eq_some_iff.1 hfiles
    rw [hy]
    exact hbare

theorem fileOrFresh_definitions (h : SameButRemarks x y) (uri : String) :
    (y.fileOrFresh uri).definitions = (x.fileOrFresh uri).definitions := by
  rw [← FileRecord.definitions_bare, h.bare_fileOrFresh, FileRecord.definitions_bare]

theorem fileOrFresh_references (h : SameButRemarks x y) (uri : String) :
    (y.fileOrFresh uri).references = (x.fileOrFresh uri).references := by
  rw [← FileRecord.references_bare, h.bare_fileOrFresh, FileRecord.references_bare]

theorem bare_extract (h : SameButRemarks x y) (uri text : String) :
    (y.extract uri text).bare = (x.extract uri text).bare := by
  unfold extract
  rw [h.fileKind, h.marker]
  cases x.options.fileKind uri with
  | document => exact Extraction.bare_ofText uri text _ _
  | plain => rfl

/-- A text gives the same record in both indices, remarks apart. -/
theorem bare_recordOf (h : SameButRemarks x y) (uri text : String) :
    (y.recordOf uri text).bare = (x.recordOf uri text).bare := by
  have hbare : ∀ z : Index, (z.recordOf uri text).bare =
      { kind := z.options.fileKind uri
        subject := (z.extract uri text).bare.subject
        definitions := (z.extract uri text).bare.definitions.filter fun d => !d.id.isEmpty
        references := (z.extract uri text).bare.references
        findings := (z.extract uri text).bare.findings ++
          ((z.extract uri text).bare.definitions.filter (·.id.isEmpty)).map fun d => .missingIdentifier d.range } := by
    intro z
    unfold recordOf FileRecord.bare
    simp only [List.map_append, List.map_map]
    rfl
  rw [hbare, hbare, h.bare_extract, h.fileKind]

theorem recordOf_definitions (h : SameButRemarks x y) (uri text : String) :
    (y.recordOf uri text).definitions = (x.recordOf uri text).definitions := by
  rw [← FileRecord.definitions_bare, h.bare_recordOf, FileRecord.definitions_bare]

theorem recordOf_references (h : SameButRemarks x y) (uri text : String) :
    (y.recordOf uri text).references = (x.recordOf uri text).references := by
  rw [← FileRecord.references_bare, h.bare_recordOf, FileRecord.references_bare]

/-- The same files are known to both indices. -/
theorem keys (h : SameButRemarks x y) : y.files.keys = x.files.keys := by
  have hmap : y.files.map (fun _ => FileRecord.bare) = x.files.map fun _ => FileRecord.bare := by
    apply Std.ExtTreeMap.ext_getElem?
    intro uri
    rw [Std.ExtTreeMap.getElem?_map, Std.ExtTreeMap.getElem?_map]
    exact h.files uri
  have hkeys := congrArg Std.ExtTreeMap.keys hmap
  rwa [Std.ExtTreeMap.keys_map, Std.ExtTreeMap.keys_map] at hkeys

/-! ## What a request does -/

theorem purge_definitions (h : SameButRemarks x y) (uri : String) :
    (y.purge uri).definitions = (x.purge uri).definitions := by
  rw [purge_eq, purge_eq, h.fileOrFresh_definitions, h.definitions]

theorem purge_references (h : SameButRemarks x y) (uri : String) :
    (y.purge uri).references = (x.purge uri).references := by
  rw [purge_eq, purge_eq, h.fileOrFresh_references, h.references]

theorem load (h : SameButRemarks x y) (uri text : String) : SameButRemarks (x.load uri text) (y.load uri text) where
  options := by
    rw [options_load, options_load, h.options]
  phase := by
    rw [phase_load, phase_load, h.phase]
  definitions := by
    rw [load_eq, load_eq, h.recordOf_definitions, h.purge_definitions]
  references := by
    rw [load_eq, load_eq, h.recordOf_references, h.purge_references]
  files := by
    intro other
    rw [file?_load, file?_load]
    by_cases hother : uri = other
    · rw [if_pos hother, if_pos hother, Option.map_some, Option.map_some, h.bare_recordOf]
    · rw [if_neg hother, if_neg hother]
      exact h.files other

theorem remove (h : SameButRemarks x y) (uri : String) : SameButRemarks (x.remove uri) (y.remove uri) where
  options := by
    rw [options_remove, options_remove, h.options]
  phase := by
    rw [phase_remove, phase_remove, h.phase]
  definitions := h.purge_definitions uri
  references := h.purge_references uri
  files := by
    intro other
    rw [file?_remove, file?_remove]
    by_cases hother : uri = other
    · rw [if_pos hother, if_pos hother]
    · rw [if_neg hother, if_neg hother]
      exact h.files other

theorem validateAll (h : SameButRemarks x y) : SameButRemarks x.validateAll.1 y.validateAll.1 :=
  { h with phase := rfl }

/-- Every request keeps the indices the same, remarks apart. -/
theorem proceed (h : SameButRemarks x y) (request : Request) :
    SameButRemarks (x.proceed request) (y.proceed request) := by
  cases request with
  | call c =>
    cases c with
    | load uri text => exact h.load uri text
    | analyze uri text =>
      have hcall : ∀ z : Index, z.proceed (.call (.analyze uri text)) = z.load uri text :=
        fun z => z.call_analyze uri text
      rw [hcall, hcall]
      exact h.load uri text
    | remove uri => exact h.remove uri
    | revalidate uri => exact h
    | validateAll => exact h.validateAll
  | linked uri => exact h

theorem proceedAll (h : SameButRemarks x y) (requests : List Request) :
    SameButRemarks (x.proceedAll requests) (y.proceedAll requests) := by
  induction requests generalizing x y with
  | nil => exact h
  | cons request rest ih => exact ih (h.proceed request)

/-! ## What is answered -/

/-- The flag only decides whether the finding of a repeated definition says where the first one stands. -/
theorem bare_duplicates (h : SameButRemarks x y) (uri : String) :
    (y.duplicates uri).map Finding.bare = (x.duplicates uri).map Finding.bare := by
  unfold duplicates
  rw [h.fileOrFresh_definitions, h.definitions, List.map_filterMap, List.map_filterMap]
  apply List.filterMap_congr
  intro d _
  cases x.definitions.entries d.id with
  | nil => rfl
  | cons first rest =>
    cases hfirst : isFirst first d with
    | true => simp only [hfirst, if_true, Option.map_none]
    | false => simp only [hfirst, Bool.false_eq_true, if_false, Option.map_some, Finding.bare]

theorem consistency (h : SameButRemarks x y) (uri : String) : y.consistency uri = x.consistency uri := by
  unfold Index.consistency
  simp only [h.fileOrFresh_definitions, h.fileOrFresh_references, h.definitions, h.references]

theorem bare_revalidate (h : SameButRemarks x y) (uri : String) :
    (y.revalidate uri).map (List.map Finding.bare) = (x.revalidate uri).map (List.map Finding.bare) := by
  have hrevalidate : ∀ z : Index, (z.revalidate uri).map (List.map Finding.bare) =
      ((z.file? uri).map FileRecord.bare).map fun record =>
        record.findings ++ (z.duplicates uri).map Finding.bare ++ (z.consistency uri).map Finding.bare := by
    intro z
    unfold revalidate
    rw [Option.map_map, Option.map_map]
    congr 1
    funext record
    simp only [Function.comp_apply, List.map_append, FileRecord.bare]
  rw [hrevalidate, hrevalidate, h.files, h.bare_duplicates, h.consistency]

theorem bare_analyze (h : SameButRemarks x y) (uri text : String) :
    (y.analyze uri text).2.map Finding.bare = (x.analyze uri text).2.map Finding.bare := by
  have hloaded := h.load uri text
  have hknown : y.files.contains uri = x.files.contains uri := by
    have hfile := congrArg Option.isSome (h.files uri)
    rw [Option.isSome_map, Option.isSome_map] at hfile
    rw [Std.ExtTreeMap.contains_eq_isSome_getElem?, Std.ExtTreeMap.contains_eq_isSome_getElem?]
    exact hfile
  have hown : (((y.load uri text).fileOrFresh uri).findings ++ (y.load uri text).duplicates uri).map Finding.bare =
      (((x.load uri text).fileOrFresh uri).findings ++ (x.load uri text).duplicates uri).map Finding.bare := by
    rw [List.map_append, List.map_append, hloaded.bare_duplicates, ← FileRecord.findings_bare,
      hloaded.bare_fileOrFresh, FileRecord.findings_bare]
  unfold analyze
  simp only [h.phase, hknown]
  split
  · simp only
    rw [List.map_append, hown, hloaded.consistency, ← List.map_append]
  · exact hown

theorem bare_validateAll (h : SameButRemarks x y) :
    y.validateAll.2.map (Prod.map id (List.map Finding.bare)) =
      x.validateAll.2.map (Prod.map id (List.map Finding.bare)) := by
  have hitem : ∀ (z : Index) (uri : String),
      ((z.revalidate uri).map (uri, ·)).map (Prod.map id (List.map Finding.bare)) =
        ((z.revalidate uri).map (List.map Finding.bare)).map (uri, ·) := by
    intro z uri
    rw [Option.map_map, Option.map_map]
    rfl
  unfold Index.validateAll
  simp only [List.map_filterMap, hitem, h.keys]
  apply List.filterMap_congr
  intro uri _
  have hready := h.validateAll.bare_revalidate uri
  exact congrArg (Option.map (uri, ·)) hready

theorem linked (h : SameButRemarks x y) (uri : String) : y.linked uri = x.linked uri := by
  have hfiles := h.files uri
  unfold Index.linked
  rw [h.definitions, h.references]
  cases hx : x.file? uri with
  | none =>
    rw [hx, Option.map_none, Option.map_eq_none_iff] at hfiles
    rw [hfiles]
  | some record =>
    rw [hx, Option.map_some] at hfiles
    obtain ⟨other, hy, hbare⟩ := Option.map_eq_some_iff.1 hfiles
    have hdefinitions : other.definitions = record.definitions := by
      rw [← other.definitions_bare, hbare, FileRecord.definitions_bare]
    have hreferences : other.references = record.references := by
      rw [← other.references_bare, hbare, FileRecord.references_bare]
    rw [hy]
    simp only [hdefinitions, hreferences]

theorem bare_answer (h : SameButRemarks x y) (request : Request) :
    (y.answer request).bare = (x.answer request).bare := by
  cases request with
  | call c =>
    cases c with
    | load uri text => rfl
    | analyze uri text => exact congrArg (fun list => Answer.findings (some list)) (h.bare_analyze uri text)
    | remove uri => rfl
    | revalidate uri => exact congrArg Answer.findings (h.bare_revalidate uri)
    | validateAll => exact congrArg Answer.allFindings h.bare_validateAll
  | linked uri => exact congrArg Answer.linked (h.linked uri)

theorem bare_answers (h : SameButRemarks x y) (requests : List Request) :
    (y.answers requests).map Answer.bare = (x.answers requests).map Answer.bare := by
  induction requests generalizing x y with
  | nil => rfl
  | cons request rest ih =>
    unfold answers
    rw [List.map_cons, List.map_cons, h.bare_answer, ih (h.proceed request)]

end SameButRemarks

/-- New indices whose options differ at most in the remarks give the same answers to the same requests, remarks apart,
and afterwards they are in the same phase, hold the same definitions, references and records, remarks apart, and tell
the same subjects, links and places. -/
theorem relatedInformation_only_adds_remarks (options : Options) (flag : Bool) (requests : List Request) :
    let plain := empty options
    let other := empty { options with relatedInformation := flag }
    let x := plain.proceedAll requests
    let y := other.proceedAll requests
    (other.answers requests).map Answer.bare = (plain.answers requests).map Answer.bare ∧
      y.phase = x.phase ∧ y.definitions = x.definitions ∧ y.references = x.references ∧
      (∀ uri, (y.file? uri).map FileRecord.bare = (x.file? uri).map FileRecord.bare ∧
        y.subject? uri = x.subject? uri ∧ y.linked uri = x.linked uri) ∧
      ∀ id, y.findDefinition id = x.findDefinition id ∧ y.findReferences id = x.findReferences id := by
  intro plain other x y
  have hnew : SameButRemarks plain other := SameButRemarks.empty options flag
  have h : SameButRemarks x y := hnew.proceedAll requests
  have hsubject : ∀ uri, y.subject? uri = x.subject? uri := by
    intro uri
    have hbare : ∀ z : Index, z.subject? uri = ((z.file? uri).map FileRecord.bare).bind FileRecord.subject := by
      intro z
      rw [Option.bind_map]
      rfl
    rw [hbare, hbare, h.files]
  refine ⟨hnew.bare_answers requests, h.phase, h.definitions, h.references, ?_, ?_⟩
  · intro uri
    exact ⟨h.files uri, hsubject uri, h.linked uri⟩
  · intro id
    unfold findDefinition findReferences
    rw [h.definitions, h.references]
    exact ⟨rfl, rfl⟩

end Index

end Traceability
