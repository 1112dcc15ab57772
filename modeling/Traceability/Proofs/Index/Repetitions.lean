import Mathlib.Data.List.Nodup
import Mathlib.Data.List.Perm.Basic
import Traceability.Proofs.Index.Findings
set_option autoImplicit false

/-!
# Who is blamed for a repeated id

Of all definitions of an id the first one is spared, and each of the others is told once to repeat it, in whatever files
they stand.

An index cannot tell one entry of a ledger from another.  It takes a definition for the first one of its id if it has the
file and the place of the first one.  So all rests on the places: no two definitions of a file have their ids on the same
line.
-/

namespace Traceability

theorem Finding.duplicateIdentifierMessage_injective : Function.Injective duplicateIdentifierMessage := by
  intro id other h
  unfold duplicateIdentifierMessage at h
  have hlists := congrArg String.toList h
  rw [String.toList_append, String.toList_append, String.toList_append, String.toList_append,
    List.append_cancel_right_eq, List.append_cancel_left_eq] at hlists
  exact String.toList_inj.1 hlists

namespace Index

/-! ## Blame -/

/-- The finding says that an id is defined before. -/
def isRepetitionOf (id : String) (f : Finding) : Bool :=
  f.category == .duplicateIdentifier && f.message == Finding.duplicateIdentifierMessage id

/-- Among the findings of its file, one says at the place of a definition that its id is defined before. -/
def isBlamed (x : Index) (d : Definition) : Bool :=
  (x.revalidate d.uri).any (·.any fun f => isRepetitionOf d.id f && f.range == d.idRange)

theorem isRepetitionOf_duplicateFinding (options : Options) (first d : Definition) (id : String) :
    isRepetitionOf id (duplicateFinding options first d) = (d.id == id) := by
  have hmessage : (duplicateFinding options first d).message = Finding.duplicateIdentifierMessage d.id := rfl
  have hcategory : (duplicateFinding options first d).category = .duplicateIdentifier := rfl
  unfold isRepetitionOf
  rw [hmessage, hcategory, beq_self_eq_true, Bool.true_and, Bool.eq_iff_iff, beq_iff_eq, beq_iff_eq]
  exact Finding.duplicateIdentifierMessage_injective.eq_iff

theorem filter_isRepetitionOf_eq_nil (id : String) {findings : List Finding}
    (h : ∀ f ∈ findings, f.category ≠ .duplicateIdentifier) : findings.filter (isRepetitionOf id) = [] := by
  rw [List.filter_eq_nil_iff]
  intro f hf
  unfold isRepetitionOf
  rw [beq_false_of_ne (h f hf), Bool.false_and]
  exact Bool.false_ne_true

/-! ## Records of texts -/

section Records

variable {x : Index} {uri text : String}

/-- The definitions of a file are told apart by the lines of their ids. -/
theorem eq_of_line_eq {d e : Definition} (hd : d ∈ (x.recordOf uri text).definitions)
    (he : e ∈ (x.recordOf uri text).definitions) (hline : d.idRange.start.line = e.idRange.start.line) : d = e := by
  have hlines : ((x.recordOf uri text).definitions.map fun e => e.idRange.start.line).Nodup := by
    rw [recordOf_eq, List.Nodup, List.pairwise_map]
    exact ((empty x.options).extract_definitions_pairwise uri text).imp Nat.ne_of_lt
  exact List.inj_on_of_nodup_map hlines hd he hline

theorem nodup_recordOf_definitions (x : Index) (uri text : String) : (x.recordOf uri text).definitions.Nodup := by
  rw [recordOf_eq]
  refine ((empty x.options).extract_definitions_pairwise uri text).imp ?_
  rintro d _ hlt rfl
  exact Nat.lt_irrefl _ hlt

theorem start_line_of_mem_recordOf {d : Definition} (hd : d ∈ (x.recordOf uri text).definitions) :
    d.range.start.line = d.idRange.start.line := by
  have hextracted : d ∈ (x.extract uri text).definitions := (List.mem_filter.1 hd).1
  unfold extract at hextracted
  split at hextracted
  · exact Extraction.start_line_of_mem_definitions uri text _ hextracted
  · cases hextracted

theorem category_ne_of_mem_recordOf {f : Finding} (hf : f ∈ (x.recordOf uri text).findings) :
    f.category ≠ .duplicateIdentifier := by
  intro hcategory
  have hinternal := category_of_mem_recordOf hf
  rw [hcategory] at hinternal
  exact absurd hinternal (by decide)

theorem category_ne_of_mem_consistency {f : Finding} (hf : f ∈ x.consistency uri) :
    f.category ≠ .duplicateIdentifier := by
  intro hcategory
  have hcross := isCrossFile_of_mem_consistency hf
  rw [hcategory] at hcross
  exact absurd hcross (by decide)

/-- Of all findings of a file, those for repeated ids are the ones that compare it with the files before it. -/
theorem mem_duplicates_of_category (hfile : x.file? uri = some (x.recordOf uri text)) {findings : List Finding}
    (hfindings : x.revalidate uri = some findings) {f : Finding} (hf : f ∈ findings)
    (hcategory : f.category = .duplicateIdentifier) : f ∈ x.duplicates uri := by
  unfold revalidate at hfindings
  rw [hfile, Option.map_some, Option.some_inj] at hfindings
  subst hfindings
  rcases List.mem_append.1 hf with hf | hf
  · rcases List.mem_append.1 hf with hf | hf
    · exact absurd hcategory (category_ne_of_mem_recordOf hf)
    · exact hf
  · exact absurd hcategory (category_ne_of_mem_consistency hf)

/-- The definitions of a file that are found to repeat an id are just those that get a finding for it. -/
theorem filter_revalidate (hfile : x.file? uri = some (x.recordOf uri text)) (id : String) :
    ((x.revalidate uri).getD []).filter (isRepetitionOf id) =
      ((x.recordOf uri text).definitions.filter (·.id == id)).filterMap x.duplicate? := by
  have hown : (x.recordOf uri text).findings.filter (isRepetitionOf id) = [] :=
    filter_isRepetitionOf_eq_nil id fun _ => category_ne_of_mem_recordOf
  have hconsistency : (x.consistency uri).filter (isRepetitionOf id) = [] :=
    filter_isRepetitionOf_eq_nil id fun _ => category_ne_of_mem_consistency
  unfold revalidate
  rw [hfile, Option.map_some, Option.getD_some, List.filter_append, List.filter_append, hown, hconsistency,
    List.append_nil, List.nil_append, duplicates_eq_filterMap, fileOrFresh_of_file?_eq_some hfile,
    List.filter_filterMap, List.filterMap_filter]
  apply List.filterMap_congr
  intro d _
  unfold duplicate?
  cases (x.definitions.entries d.id).head?.filter (fun first => !isFirst first d) with
  | none => simp
  | some first => simp [Option.filter, isRepetitionOf_duplicateFinding]

/-- All findings of a project are those of its files. -/
theorem flatMap_validateAll (x : Index) :
    x.validateAll.2.flatMap Prod.snd = x.files.keys.flatMap fun uri => (x.revalidate uri).getD [] := by
  have hfindings : x.validateAll.2 = x.files.keys.filterMap fun uri => (x.revalidate uri).map (uri, ·) := rfl
  rw [hfindings]
  induction x.files.keys with
  | nil => rfl
  | cons uri rest ih =>
    rw [List.filterMap_cons, List.flatMap_cons, ← ih]
    cases x.revalidate uri with
    | none => rfl
    | some findings => rfl

/-- A definition is blamed just if the index finds it to repeat its id. -/
theorem isBlamed_eq {d : Definition} (hfile : x.file? d.uri = some (x.recordOf d.uri text))
    (hd : d ∈ (x.recordOf d.uri text).definitions) : x.isBlamed d = (x.duplicate? d).isSome := by
  have hfindings : ∃ findings, x.revalidate d.uri = some findings := by
    unfold revalidate
    rw [hfile]
    exact ⟨_, rfl⟩
  obtain ⟨findings, hfindings⟩ := hfindings
  have hfilter := filter_revalidate hfile d.id
  rw [hfindings, Option.getD_some] at hfilter
  unfold isBlamed
  rw [hfindings, Option.any_some, Bool.eq_iff_iff, List.any_eq_true]
  constructor
  · rintro ⟨f, hf, hblame⟩
    rw [Bool.and_eq_true, beq_iff_eq] at hblame
    obtain ⟨hrepetition, hrange⟩ := hblame
    have hmem : f ∈ findings.filter (isRepetitionOf d.id) := List.mem_filter.2 ⟨hf, hrepetition⟩
    rw [hfilter] at hmem
    obtain ⟨e, he, hfound⟩ := List.mem_filterMap.1 hmem
    obtain ⟨first, _, rfl⟩ := Option.map_eq_some_iff.1 hfound
    -- The finding stands at the place of both, and places tell the definitions of a file apart.
    have hsame : d = e := eq_of_line_eq hd (List.mem_filter.1 he).1 (congrArg (·.start.line) hrange.symm)
    rw [hsame, hfound]
    rfl
  · intro hfound
    obtain ⟨f, hf⟩ := Option.isSome_iff_exists.1 hfound
    have hmem : f ∈ findings.filter (isRepetitionOf d.id) := by
      rw [hfilter]
      exact List.mem_filterMap.2 ⟨d, List.mem_filter.2 ⟨hd, beq_self_eq_true d.id⟩, hf⟩
    obtain ⟨hfinding, hrepetition⟩ := List.mem_filter.1 hmem
    obtain ⟨first, _, rfl⟩ := Option.map_eq_some_iff.1 hf
    exact ⟨_, hfinding, by rw [hrepetition, Bool.true_and]; exact beq_self_eq_true d.idRange⟩

end Records

/-! ## The definitions of an id -/

/-- Entries put together owner by owner are the same up to their order. -/
theorem flatMap_filter_perm {α : Type} {owner : α → String} {keys : List String} (hkeys : keys.Nodup)
    {entries : List α} (h : ∀ e ∈ entries, owner e ∈ keys) :
    (keys.flatMap fun key => entries.filter (owner · == key)).Perm entries := by
  induction keys generalizing entries with
  | nil =>
    have hnone : entries = [] := List.eq_nil_iff_forall_not_mem.2 fun e he => List.not_mem_nil (h e he)
    rw [hnone]
    rfl
  | cons key rest ih =>
    obtain ⟨hkey, hrest⟩ := List.nodup_cons.1 hkeys
    -- The entries of the first owner are set apart, so that the induction hypothesis speaks of the others.
    have hothers : (rest.flatMap fun other => entries.filter (owner · == other)) =
        rest.flatMap fun other => (entries.filter fun e => !(owner e == key)).filter (owner · == other) := by
      apply List.flatMap_congr
      intro other hother
      have hne : other ≠ key := by
        rintro rfl
        exact hkey hother
      rw [List.filter_filter]
      apply List.filter_congr
      intro e _
      by_cases he : owner e = other
      · simp [he, hne]
      · simp [he]
    have hcovered : ∀ e ∈ entries.filter fun e => !(owner e == key), owner e ∈ rest := by
      intro e he
      obtain ⟨hmem, hne⟩ := List.mem_filter.1 he
      exact List.mem_of_ne_of_mem (by simpa using hne) (h e hmem)
    rw [List.flatMap_cons, hothers]
    exact ((ih hrest hcovered).append_left _).trans (List.filter_append_perm (owner · == key) entries)

namespace AssembledFrom

variable {x : Index} {texts : List (String × String)} {id : String}

/-- A definition in the ledger is in the record of a text. -/
theorem exists_recordOf (h : AssembledFrom texts x) (hx : x.Coherent) {d : Definition}
    (hd : d ∈ x.definitions.entries id) :
    ∃ text, x.file? d.uri = some (x.recordOf d.uri text) ∧ d ∈ (x.recordOf d.uri text).definitions := by
  have hrecorded := ((hx.definitions.mem_entries_iff id d).1 hd).1
  have hfile := h.file? d.uri
  unfold recorded at hrecorded
  cases htext : texts.lookup d.uri with
  | none =>
    rw [htext, Option.map_none] at hfile
    rw [hfile] at hrecorded
    cases hrecorded
  | some text =>
    rw [htext, Option.map_some] at hfile
    rw [hfile] at hrecorded
    exact ⟨text, hfile, hrecorded⟩

/-- Two definitions of one file are the same as soon as their ids stand on the same line. -/
theorem eq_of_uri_eq (h : AssembledFrom texts x) (hx : x.Coherent) {d e : Definition}
    (hd : d ∈ x.definitions.entries id) (he : e ∈ x.definitions.entries id) (huri : e.uri = d.uri)
    (hline : e.idRange.start.line = d.idRange.start.line) : e = d := by
  obtain ⟨text, hfile, hmem⟩ := h.exists_recordOf hx hd
  obtain ⟨text', hfile', hmem'⟩ := h.exists_recordOf hx he
  rw [huri] at hfile' hmem'
  rw [hfile, Option.some_inj] at hfile'
  rw [← hfile'] at hmem'
  exact eq_of_line_eq hmem' hmem hline

/-- The place of a definition tells it apart from the others of its id. -/
theorem isFirst_iff (h : AssembledFrom texts x) (hx : x.Coherent) {d e : Definition}
    (hd : d ∈ x.definitions.entries id) (he : e ∈ x.definitions.entries id) : isFirst e d = true ↔ e = d := by
  constructor
  · intro hfirst
    unfold isFirst at hfirst
    rw [Bool.and_eq_true, beq_iff_eq, beq_iff_eq] at hfirst
    exact h.eq_of_uri_eq hx hd he hfirst.1 (congrArg (·.start.line) hfirst.2)
  · rintro rfl
    exact isFirst_self e

/-- So does its location. -/
theorem location_eq_iff (h : AssembledFrom texts x) (hx : x.Coherent) {d e : Definition}
    (hd : d ∈ x.definitions.entries id) (he : e ∈ x.definitions.entries id) : e.location = d.location ↔ e = d := by
  constructor
  · intro hlocation
    obtain ⟨_, _, hmem⟩ := h.exists_recordOf hx hd
    obtain ⟨_, _, hmem'⟩ := h.exists_recordOf hx he
    apply h.eq_of_uri_eq hx hd he (congrArg (·.uri) hlocation)
    rw [← start_line_of_mem_recordOf hmem, ← start_line_of_mem_recordOf hmem']
    exact congrArg (·.range.start.line) hlocation
  · rintro rfl
    rfl

/-- No definition stands twice under its id. -/
theorem nodup_entries (h : AssembledFrom texts x) (hx : x.Coherent) (id : String) :
    (x.definitions.entries id).Nodup := by
  rw [List.nodup_iff_count_le_one]
  intro d
  by_cases hd : d ∈ x.definitions.entries id
  · obtain ⟨text, hfile, _⟩ := h.exists_recordOf hx hd
    have howned := hx.definitions.owned id d.uri
    unfold recorded at howned
    rw [hfile, Option.elim_some] at howned
    have hcount : (x.definitions.entries id).count d =
        ((x.definitions.entries id).filter (·.uri == d.uri)).count d := by
      rw [List.count_filter]
      exact beq_self_eq_true d.uri
    rw [hcount, howned]
    exact List.nodup_iff_count_le_one.1 ((x.nodup_recordOf_definitions d.uri text).filter _) d
  · rw [List.count_eq_zero_of_not_mem hd]
    exact Nat.zero_le 1

section Entries

variable {first : Definition} {rest : List Definition}

/-- Each definition of an id but the first one is found to repeat it. -/
theorem duplicate?_eq (h : AssembledFrom texts x) (hx : x.Coherent)
    (hentries : x.definitions.entries id = first :: rest) {d : Definition} (hd : d ∈ x.definitions.entries id) :
    x.duplicate? d = if first = d then none else some (duplicateFinding x.options first d) := by
  have hid : d.id = id := hx.definitions.keyed id d hd
  have hfirst : first ∈ x.definitions.entries id := by
    rw [hentries]
    exact List.mem_cons_self
  unfold duplicate?
  rw [hid, hentries, List.head?_cons]
  split
  · next heq =>
    have htrue := (h.isFirst_iff hx hd hfirst).2 heq
    simp [Option.filter, htrue]
  · next hne =>
    have hfalse : isFirst first d = false := Bool.eq_false_iff.2 (mt (h.isFirst_iff hx hd hfirst).1 hne)
    simp [Option.filter, hfalse]

theorem filterMap_entries (h : AssembledFrom texts x) (hx : x.Coherent)
    (hentries : x.definitions.entries id = first :: rest) :
    (x.definitions.entries id).filterMap x.duplicate? = rest.map (duplicateFinding x.options first) := by
  have hnodup := h.nodup_entries hx id
  have hfound : ∀ d ∈ first :: rest,
      x.duplicate? d = if first = d then none else some (duplicateFinding x.options first d) := by
    intro d hd
    rw [← hentries] at hd
    exact h.duplicate?_eq hx hentries hd
  rw [hentries, List.nodup_cons] at hnodup
  rw [hentries, List.filterMap_cons, hfound first List.mem_cons_self, if_pos rfl]
  simp only
  rw [← List.filterMap_eq_map]
  apply List.filterMap_congr
  intro d hd
  have hne : first ≠ d := by
    rintro rfl
    exact hnodup.1 hd
  rw [hfound d (List.mem_cons_of_mem first hd), if_neg hne]
  rfl

end Entries

theorem length_filterMap_entries (h : AssembledFrom texts x) (hx : x.Coherent) (id : String) :
    ((x.definitions.entries id).filterMap x.duplicate?).length = (x.definitions.entries id).length - 1 := by
  cases hentries : x.definitions.entries id with
  | nil => rfl
  | cons first rest =>
    rw [← hentries, h.filterMap_entries hx hentries, hentries, List.length_map]
    rfl

theorem isBlamed_eq (h : AssembledFrom texts x) (hx : x.Coherent) {d : Definition}
    (hd : d ∈ x.definitions.entries id) : x.isBlamed d = (x.duplicate? d).isSome := by
  obtain ⟨text, hfile, hmem⟩ := h.exists_recordOf hx hd
  exact Index.isBlamed_eq hfile hmem

/-- All definitions of an id but one are blamed. -/
theorem countP_isBlamed (h : AssembledFrom texts x) (hx : x.Coherent) (id : String) :
    (x.definitions.entries id).countP x.isBlamed = (x.definitions.entries id).length - 1 := by
  rw [← h.length_filterMap_entries hx id, List.length_filterMap_eq_countP]
  apply List.countP_congr
  intro d hd
  rw [h.isBlamed_eq hx hd]

/-- The one that is spared is the first one, wherever it stands. -/
theorem isBlamed_eq_false_iff (h : AssembledFrom texts x) (hx : x.Coherent) {d : Definition}
    (hd : d ∈ x.definitions.entries id) :
    x.isBlamed d = false ↔ (x.findDefinition id).head? = some d.location := by
  obtain ⟨first, rest, hentries⟩ := List.exists_cons_of_ne_nil (List.ne_nil_of_mem hd)
  have hfirst : first ∈ x.definitions.entries id := by
    rw [hentries]
    exact List.mem_cons_self
  have hhead : (x.findDefinition id).head? = some first.location := by
    unfold findDefinition
    rw [hentries]
    rfl
  rw [h.isBlamed_eq hx hd, h.duplicate?_eq hx hentries hd, hhead, Option.some_inj, h.location_eq_iff hx hd hfirst]
  by_cases heq : first = d
  · simp [heq]
  · simp [heq]

/-- The repetitions of an id that are found in a file come from what its ledger lists for the file. -/
theorem filter_revalidate (h : AssembledFrom texts x) (hx : x.Coherent) {uri : String} (huri : uri ∈ x.files.keys)
    (id : String) :
    ((x.revalidate uri).getD []).filter (isRepetitionOf id) =
      ((x.definitions.entries id).filter (·.uri == uri)).filterMap x.duplicate? := by
  have hrecord := h.file? uri
  cases htext : texts.lookup uri with
  | none =>
    rw [Std.ExtTreeMap.mem_keys, Std.ExtTreeMap.mem_iff_isSome_getElem?] at huri
    rw [htext, Option.map_none] at hrecord
    unfold Index.file? at hrecord
    rw [hrecord] at huri
    cases huri
  | some text =>
    rw [htext, Option.map_some] at hrecord
    rw [Index.filter_revalidate hrecord, hx.definitions.owned]
    unfold recorded
    rw [hrecord, Option.elim_some]

/-- The findings of all files hold one for each definition of an id but one. -/
theorem countP_validateAll (h : AssembledFrom texts x) (hx : x.Coherent) (id : String) :
    (x.validateAll.2.flatMap Prod.snd).countP (isRepetitionOf id) = (x.definitions.entries id).length - 1 := by
  have hcovered : ∀ d ∈ x.definitions.entries id, d.uri ∈ x.files.keys := by
    intro d hd
    obtain ⟨text, hrecord, _⟩ := h.exists_recordOf hx hd
    unfold Index.file? at hrecord
    rw [Std.ExtTreeMap.mem_keys, Std.ExtTreeMap.mem_iff_isSome_getElem?, hrecord]
    rfl
  rw [← h.length_filterMap_entries hx id, List.countP_eq_length_filter, flatMap_validateAll, List.filter_flatMap,
    List.flatMap_congr fun uri huri => h.filter_revalidate hx huri id, ← List.filterMap_flatMap]
  exact ((flatMap_filter_perm Std.ExtTreeMap.nodup_keys hcovered).filterMap x.duplicate?).length_eq

end AssembledFrom

/-- After any history of a new index the definitions of an id are told apart, and all of them but one are blamed for
repeating it.  The one that is spared is the one whose location comes first for the id, and the findings of all files hold
no other repetitions of the id. -/
theorem isBlamed_iff_not_first (options : Options) (history : List FileCall) (id : String) :
    let x := (empty options).callAll history
    let ds := x.definitions.entries id
    ds.Nodup ∧ ds.countP x.isBlamed = ds.length - 1 ∧
      (∀ d ∈ ds, x.isBlamed d = false ↔ (x.findDefinition id).head? = some d.location) ∧
      (x.validateAll.2.flatMap Prod.snd).countP (isRepetitionOf id) = ds.length - 1 := by
  intro x ds
  have hcoherent : x.Coherent := (coherent_empty options).callAll history
  have hx : AssembledFrom (FileCall.liveTexts history) x := assembledFrom_liveTexts options history
  exact ⟨hx.nodup_entries hcoherent id, hx.countP_isBlamed hcoherent id,
    fun d hd => hx.isBlamed_eq_false_iff hcoherent hd, hx.countP_validateAll hcoherent id⟩

/-- A document that repeats an id of its own and one of an earlier document is blamed twice, and the earlier one is
spared. -/
theorem isBlamed_of_three :
    let once := "# *x*\n\n**A** The x **shall** go.\n"
    let history : List FileCall :=
      [.load "a.shalldn" once, .load "b.shalldn" once, .analyze "a.shalldn" (once ++ "\n**A** The x **shall** stop.\n")]
    let x := (empty {}).callAll history
    let ds := x.definitions.entries "A"
    ds.map Definition.uri = ["b.shalldn", "a.shalldn", "a.shalldn"] ∧ ds.countP x.isBlamed = 2 ∧
      ∃ d ∈ ds, d.uri = "b.shalldn" ∧ x.isBlamed d = false := by
  intro once history x ds
  have huris : ds.map Definition.uri = ["b.shalldn", "a.shalldn", "a.shalldn"] := by
    decide +kernel
  obtain ⟨_, hcount, hspared, _⟩ := isBlamed_iff_not_first {} history "A"
  obtain ⟨d, hd, hfirst⟩ : ∃ d ∈ ds, d.uri = "b.shalldn" ∧ (x.findDefinition "A").head? = some d.location := by
    decide +kernel
  have hlength : ds.length = 3 := by
    rw [← List.length_map (f := Definition.uri), huris]
    rfl
  exact ⟨huris, by rw [hcount, hlength], d, hd, hfirst.1, (hspared d hd).2 hfirst.2⟩

end Index

end Traceability
