import Mathlib.Data.List.Induction
import Traceability.Proofs.Index.Coherence
set_option autoImplicit false

/-!
# Histories of an index

A file can be loaded, analysed and removed any number of times.  What an index holds in the end depends only on
the last text of each file that was not removed afterwards, and on the order in which these last texts came:
`survivors` are the calls that brought them.

The invariant is `AssembledFrom`: the records are those of the live texts, and under each id the ledgers hold
what the live texts contribute, one text after the other.
-/

namespace Traceability

/-! ## Live texts -/

namespace FileCall

/-- The file whose text a call sets or drops. -/
def target? : FileCall → Option String
  | load uri _ => some uri
  | analyze uri _ => some uri
  | remove uri => some uri
  | revalidate _ => none
  | validateAll => none

/-- The text that a call brings, with the uri of its file. -/
def text? : FileCall → Option (String × String)
  | load uri text => some (uri, text)
  | analyze uri text => some (uri, text)
  | _ => none

theorem target?_of_text? {c : FileCall} {uri text : String} (h : c.text? = some (uri, text)) :
    c.target? = some uri := by
  cases c with
  | load uri' text' =>
    obtain ⟨rfl, _⟩ : uri' = uri ∧ text' = text := by simpa [text?] using h
    rfl
  | analyze uri' text' =>
    obtain ⟨rfl, _⟩ : uri' = uri ∧ text' = text := by simpa [text?] using h
    rfl
  | remove uri' => exact absurd h (by simp [text?])
  | revalidate uri' => exact absurd h (by simp [text?])
  | validateAll => exact absurd h (by simp [text?])

/-- Whether a call brings a text and none of the later ones sets or drops the text of the same file. -/
def survives (c : FileCall) (later : List FileCall) : Bool :=
  c.text?.isSome && later.all fun d => d.target? != c.target?

/-- The calls of a history that bring a text which counts in the end. -/
def survivors : List FileCall → List FileCall
  | [] => []
  | c :: later => if c.survives later then c :: survivors later else survivors later

/-- The texts that count after a history, in the order in which they came. -/
def liveTexts (history : List FileCall) : List (String × String) := (survivors history).filterMap text?

theorem survivors_cons_of_survives {c : FileCall} {later : List FileCall} (h : c.survives later = true) :
    survivors (c :: later) = c :: survivors later := by
  rw [survivors, if_pos h]

theorem survivors_cons_of_not {c : FileCall} {later : List FileCall} (h : ¬ c.survives later = true) :
    survivors (c :: later) = survivors later := by
  rw [survivors, if_neg h]

theorem mem_of_mem_survivors {history : List FileCall} {c : FileCall} (h : c ∈ survivors history) :
    c ∈ history := by
  induction history with
  | nil => exact h
  | cons first rest ih =>
    by_cases hfirst : first.survives rest = true
    · rw [survivors_cons_of_survives hfirst, List.mem_cons] at h
      rcases h with rfl | h
      · exact List.mem_cons_self
      · exact List.mem_cons_of_mem first (ih h)
    · rw [survivors_cons_of_not hfirst] at h
      exact List.mem_cons_of_mem first (ih h)

theorem target?_isSome_of_mem_survivors {history : List FileCall} {c : FileCall} (h : c ∈ survivors history) :
    c.target?.isSome = true := by
  induction history with
  | nil => exact absurd h List.not_mem_nil
  | cons first rest ih =>
    by_cases hfirst : first.survives rest = true
    · rw [survivors_cons_of_survives hfirst, List.mem_cons] at h
      rcases h with rfl | h
      · obtain ⟨live, hlive⟩ := Option.isSome_iff_exists.1 (Bool.and_eq_true_iff.1 hfirst).1
        rw [target?_of_text? hlive]
        rfl
      · exact ih h
    · rw [survivors_cons_of_not hfirst] at h
      exact ih h

/-- All survivors survive when they are called again. -/
theorem survivors_survivors (history : List FileCall) : survivors (survivors history) = survivors history := by
  induction history with
  | nil => rfl
  | cons c rest ih =>
    by_cases hc : c.survives rest = true
    · obtain ⟨htext, hlater⟩ := Bool.and_eq_true_iff.1 hc
      rw [List.all_eq_true] at hlater
      have hstill : c.survives (survivors rest) = true := by
        unfold survives
        rw [htext, Bool.true_and, List.all_eq_true]
        exact fun d hd => hlater d (mem_of_mem_survivors hd)
      rw [survivors_cons_of_survives hc, survivors_cons_of_survives hstill, ih]
    · rw [survivors_cons_of_not hc, ih]

/-- What one more call does to the survivors: it replaces the one of its own file. -/
theorem survivors_concat (history : List FileCall) (c : FileCall) :
    survivors (history ++ [c]) =
      (survivors history).filter (fun earlier => c.target? != earlier.target?) ++
        if c.text?.isSome then [c] else [] := by
  induction history with
  | nil =>
    simp [survivors, survives]
  | cons first rest ih =>
    have hconcat : first.survives (rest ++ [c]) = (first.survives rest && c.target? != first.target?) := by
      unfold survives
      rw [List.all_append, List.all_cons, List.all_nil, Bool.and_true, Bool.and_assoc]
    rw [List.cons_append, survivors, survivors, hconcat, ih]
    cases hfirst : first.survives rest with
    | false =>
      simp only [Bool.false_and, Bool.false_eq_true, if_false]
    | true =>
      simp only [Bool.true_and, if_true, List.filter_cons]
      split
      · rw [List.cons_append]
      · rfl

theorem filterMap_text?_filter (calls : List FileCall) (uri : String) :
    (calls.filter fun c => some uri != c.target?).filterMap text? =
      (calls.filterMap text?).filter fun live => !(live.1 == uri) := by
  induction calls with
  | nil => rfl
  | cons c rest ih =>
    cases htext : c.text? with
    | none =>
      rw [List.filterMap_cons_none htext, List.filter_cons]
      split
      · rw [List.filterMap_cons_none htext, ih]
      · exact ih
    | some live =>
      have htarget : c.target? = some live.1 := target?_of_text? htext
      rw [List.filterMap_cons_some htext, List.filter_cons, List.filter_cons, htarget]
      by_cases huri : live.1 = uri
      · simp [huri, ih]
      · simp [huri, Ne.symm huri, htext, ih]

/-- A text takes the place of an earlier one of the same file, and comes last. -/
theorem liveTexts_concat_of_text? {c : FileCall} {uri text : String} (h : c.text? = some (uri, text))
    (history : List FileCall) :
    liveTexts (history ++ [c]) = ((liveTexts history).filter fun live => !(live.1 == uri)) ++ [(uri, text)] := by
  unfold liveTexts
  rw [survivors_concat, target?_of_text? h, List.filterMap_append, filterMap_text?_filter, h]
  simp [h]

theorem liveTexts_concat_remove (history : List FileCall) (uri : String) :
    liveTexts (history ++ [.remove uri]) = (liveTexts history).filter fun live => !(live.1 == uri) := by
  unfold liveTexts
  rw [survivors_concat]
  have hnone : (remove uri).text? = none := rfl
  have hsome : (remove uri).target? = some uri := rfl
  rw [hnone, hsome, ← filterMap_text?_filter]
  simp

theorem liveTexts_concat_of_target?_eq_none {c : FileCall} (h : c.target? = none) (history : List FileCall) :
    liveTexts (history ++ [c]) = liveTexts history := by
  have hnone : c.text? = none := by
    cases htext : c.text? with
    | none => rfl
    | some live => exact absurd (h ▸ target?_of_text? htext) (by simp)
  have hall : (survivors history).filter (fun earlier => c.target? != earlier.target?) = survivors history := by
    rw [List.filter_eq_self]
    intro earlier hmem
    obtain ⟨uri, huri⟩ := Option.isSome_iff_exists.1 (target?_isSome_of_mem_survivors hmem)
    rw [h, huri]
    rfl
  unfold liveTexts
  rw [survivors_concat, hall, hnone]
  simp

end FileCall

namespace Index

/-! ## Indices assembled from texts -/

/-- The records of an index are those of some texts, and under each id its ledgers hold what these texts
contribute, one text after the other. -/
structure AssembledFrom (texts : List (String × String)) (x : Index) : Prop where
  file? : ∀ uri, x.file? uri = (texts.lookup uri).map (x.recordOf uri)
  definitions : ∀ id, x.definitions.entries id =
    texts.flatMap fun live => (x.recordOf live.1 live.2).definitions.filter (·.id == id)
  references : ∀ id, x.references.entries id =
    texts.flatMap fun live => (x.recordOf live.1 live.2).references.filter (·.id == id)

/-- The texts of all files but one. -/
def textsBut (uri : String) (texts : List (String × String)) : List (String × String) :=
  texts.filter fun live => !(live.1 == uri)

theorem lookup_textsBut (uri other : String) (texts : List (String × String)) :
    (textsBut uri texts).lookup other = if uri = other then none else texts.lookup other := by
  induction texts with
  | nil => simp [textsBut]
  | cons live rest ih =>
    have hcons : textsBut uri (live :: rest) =
        if live.1 = uri then textsBut uri rest else live :: textsBut uri rest := by
      unfold textsBut
      rw [List.filter_cons]
      by_cases hlive : live.1 = uri
      · simp [hlive]
      · simp [hlive]
    rw [hcons]
    by_cases hlive : live.1 = uri
    · rw [if_pos hlive, ih]
      by_cases hother : uri = other
      · rw [if_pos hother, if_pos hother]
      · have hmiss : (other == live.1) = false := by
          rw [hlive]
          exact beq_false_of_ne (Ne.symm hother)
        rw [if_neg hother, if_neg hother, List.lookup_cons, hmiss]
    · rw [if_neg hlive, List.lookup_cons, List.lookup_cons, ih]
      by_cases hother : uri = other
      · have hmiss : (other == live.1) = false := by
          rw [← hother]
          exact beq_false_of_ne (Ne.symm hlive)
        rw [if_pos hother, if_pos hother, hmiss]
      · rw [if_neg hother, if_neg hother]

/-- Leaving out what a file owns is leaving out its texts, if every text contributes to its own file only. -/
theorem filter_flatMap_owner {α : Type} {owner : α → String} {contribution : String × String → List α}
    (howner : ∀ live, ∀ e ∈ contribution live, owner e = live.1) (uri : String) (texts : List (String × String)) :
    (texts.flatMap contribution).filter (fun e => !(owner e == uri)) = (textsBut uri texts).flatMap contribution := by
  induction texts with
  | nil => rfl
  | cons live rest ih =>
    unfold textsBut at ih ⊢
    rw [List.flatMap_cons, List.filter_append, ih, List.filter_cons]
    by_cases hlive : live.1 = uri
    · have hnone : (contribution live).filter (fun e => !(owner e == uri)) = [] := by
        rw [List.filter_eq_nil_iff]
        intro e he
        simp [howner live e he, hlive]
      rw [hnone, if_neg (by simp [hlive]), List.nil_append]
    · have hall : (contribution live).filter (fun e => !(owner e == uri)) = contribution live := by
        rw [List.filter_eq_self]
        intro e he
        simp [howner live e he, hlive]
      rw [hall, if_pos (by simp [hlive]), List.flatMap_cons]

theorem uri_of_mem_contributed_definitions (x : Index) (id : String) (live : String × String) :
    ∀ d ∈ (x.recordOf live.1 live.2).definitions.filter (·.id == id), d.uri = live.1 :=
  fun _ hd => x.uri_of_mem_recordOf_definitions (List.mem_filter.1 hd).1

theorem uri_of_mem_contributed_references (x : Index) (id : String) (live : String × String) :
    ∀ r ∈ (x.recordOf live.1 live.2).references.filter (·.id == id), r.uri = live.1 :=
  fun _ hr => x.uri_of_mem_recordOf_references (List.mem_filter.1 hr).1

theorem assembledFrom_empty (options : Options) : AssembledFrom [] (empty options) where
  file? := by
    intro uri
    rw [file?_empty]
    rfl
  definitions := by
    intro id
    exact Ledger.entries_empty id
  references := by
    intro id
    exact Ledger.entries_empty id

namespace AssembledFrom

variable {x y : Index} {texts : List (String × String)}

theorem load (h : AssembledFrom texts x) (hx : x.Coherent) (uri text : String) :
    AssembledFrom (textsBut uri texts ++ [(uri, text)]) (x.load uri text) where
  file? := by
    intro other
    rw [file?_load, recordOf_congr (x.options_load uri text), List.lookup_append, lookup_textsBut, h.file?]
    by_cases hother : uri = other
    · subst hother
      simp
    · have hmiss : (other == uri) = false := beq_false_of_ne (Ne.symm hother)
      simp [hother, hmiss, List.lookup_cons]
  definitions := by
    intro id
    rw [hx.entries_load_definitions, h.definitions,
      filter_flatMap_owner (x.uri_of_mem_contributed_definitions id), List.flatMap_append]
    simp only [recordOf_congr (x.options_load uri text), List.flatMap_cons, List.flatMap_nil, List.append_nil]
  references := by
    intro id
    rw [hx.entries_load_references, h.references,
      filter_flatMap_owner (x.uri_of_mem_contributed_references id), List.flatMap_append]
    simp only [recordOf_congr (x.options_load uri text), List.flatMap_cons, List.flatMap_nil, List.append_nil]

theorem remove (h : AssembledFrom texts x) (hx : x.Coherent) (uri : String) :
    AssembledFrom (textsBut uri texts) (x.remove uri) where
  file? := by
    intro other
    rw [file?_remove, lookup_textsBut, h.file?, recordOf_congr (x.options_remove uri)]
    split
    · rfl
    · rfl
  definitions := by
    intro id
    have hentries : (x.remove uri).definitions.entries id = (x.purge uri).definitions.entries id := rfl
    rw [hentries, hx.entries_purge_definitions, h.definitions,
      filter_flatMap_owner (x.uri_of_mem_contributed_definitions id)]
    simp only [recordOf_congr (x.options_remove uri)]
  references := by
    intro id
    have hentries : (x.remove uri).references.entries id = (x.purge uri).references.entries id := rfl
    rw [hentries, hx.entries_purge_references, h.references,
      filter_flatMap_owner (x.uri_of_mem_contributed_references id)]
    simp only [recordOf_congr (x.options_remove uri)]

/-- The phase has no part in it. -/
theorem validateAll (h : AssembledFrom texts x) : AssembledFrom texts x.validateAll.1 :=
  ⟨h.file?, h.definitions, h.references⟩

end AssembledFrom

/-- Coherent indices with the same options that are assembled from the same texts hold the same. -/
theorem AssembledFrom.ext {x y : Index} {texts : List (String × String)} (hx : AssembledFrom texts x)
    (hy : AssembledFrom texts y) (hcx : x.Coherent) (hcy : y.Coherent) (hoptions : x.options = y.options) :
    x.definitions = y.definitions ∧ x.references = y.references ∧ x.files = y.files := by
  refine ⟨?_, ?_, ?_⟩
  · apply hcx.definitions.occupied.ext hcy.definitions.occupied
    intro id
    simp only [hx.definitions, hy.definitions, recordOf_congr hoptions]
  · apply hcx.references.occupied.ext hcy.references.occupied
    intro id
    simp only [hx.references, hy.references, recordOf_congr hoptions]
  · apply Std.ExtTreeMap.ext_getElem?
    intro uri
    have hfile : x.file? uri = y.file? uri := by
      rw [hx.file?, hy.file?, recordOf_congr hoptions]
    exact hfile

/-! ## Runs -/

theorem callAll_append (x : Index) (calls later : List FileCall) :
    x.callAll (calls ++ later) = (x.callAll calls).callAll later :=
  List.foldl_append

theorem callAll_concat (x : Index) (calls : List FileCall) (c : FileCall) :
    x.callAll (calls ++ [c]) = (x.callAll calls).call c :=
  x.callAll_append calls [c]

theorem options_call (x : Index) (c : FileCall) : (x.call c).options = x.options := by
  cases c with
  | load uri text => exact x.options_load uri text
  | analyze uri text =>
    rw [call_analyze]
    exact x.options_load uri text
  | remove uri => exact x.options_remove uri
  | revalidate uri => rfl
  | validateAll => rfl

theorem options_callAll (x : Index) (calls : List FileCall) : (x.callAll calls).options = x.options := by
  induction calls generalizing x with
  | nil => rfl
  | cons c rest ih => exact (ih (x.call c)).trans (x.options_call c)

/-- An index that was new holds what the texts contribute that count after its history. -/
theorem assembledFrom_liveTexts (options : Options) (history : List FileCall) :
    AssembledFrom (FileCall.liveTexts history) ((empty options).callAll history) := by
  -- The last call decides, so the induction is from the end of the history.
  induction history using List.reverseRecOn with
  | nil => exact assembledFrom_empty options
  | append_singleton history c ih =>
    have hcoherent := (coherent_empty options).callAll history
    rw [callAll_concat]
    cases c with
    | load uri text =>
      rw [FileCall.liveTexts_concat_of_text? rfl]
      exact ih.load hcoherent uri text
    | analyze uri text =>
      rw [FileCall.liveTexts_concat_of_text? rfl, call_analyze]
      exact ih.load hcoherent uri text
    | remove uri =>
      rw [FileCall.liveTexts_concat_remove]
      exact ih.remove hcoherent uri
    | revalidate uri =>
      rw [FileCall.liveTexts_concat_of_target?_eq_none rfl]
      exact ih
    | validateAll =>
      rw [FileCall.liveTexts_concat_of_target?_eq_none rfl]
      exact ih.validateAll

theorem phase_call (x : Index) (c : FileCall) :
    (x.call c).phase = if c = .validateAll then .ready else x.phase := by
  cases c with
  | load uri text => exact x.phase_load uri text
  | analyze uri text =>
    rw [call_analyze]
    exact x.phase_load uri text
  | remove uri => exact x.phase_remove uri
  | revalidate uri => rfl
  | validateAll => rfl

/-- Nothing but a validation of all files ends the loading, and nothing takes this back. -/
theorem phase_callAll_eq_ready_iff (x : Index) (calls : List FileCall) :
    (x.callAll calls).phase = .ready ↔ x.phase = .ready ∨ FileCall.validateAll ∈ calls := by
  induction calls generalizing x with
  | nil => simp [callAll]
  | cons c rest ih =>
    have hstep : x.callAll (c :: rest) = (x.call c).callAll rest := rfl
    rw [hstep, ih, phase_call, List.mem_cons]
    by_cases hc : c = .validateAll
    · simp [hc]
    · simp [hc, Ne.symm hc]

/-- After any history of a new index, both ledgers and the records are those of a new index that sees only the
surviving calls, in their order; no id stands without entries; and the loading has ended just if all files were
validated at some time. -/
theorem callAll_eq_callAll_survivors (options : Options) (history : List FileCall) :
    let x := (empty options).callAll history
    let y := (empty options).callAll (FileCall.survivors history)
    x.definitions = y.definitions ∧ x.references = y.references ∧ x.files = y.files ∧
      (∀ id : String, x.definitions[id]? ≠ some [] ∧ x.references[id]? ≠ some []) ∧
      (x.phase = .ready ↔ FileCall.validateAll ∈ history) := by
  intro x y
  have hcoherent : x.Coherent := (coherent_empty options).callAll history
  have hx : AssembledFrom (FileCall.liveTexts history) x := assembledFrom_liveTexts options history
  have hy : AssembledFrom (FileCall.liveTexts history) y := by
    have hreplayed := assembledFrom_liveTexts options (FileCall.survivors history)
    unfold FileCall.liveTexts at hreplayed
    rw [FileCall.survivors_survivors] at hreplayed
    exact hreplayed
  have hoptions : x.options = y.options := by
    rw [options_callAll, options_callAll]
  obtain ⟨hdefinitions, hreferences, hfiles⟩ :=
    hx.ext hy hcoherent ((coherent_empty options).callAll _) hoptions
  refine ⟨hdefinitions, hreferences, hfiles, ?_, ?_⟩
  · intro id
    exact ⟨hcoherent.definitions.occupied id, hcoherent.references.occupied id⟩
  · rw [phase_callAll_eq_ready_iff]
    simp [empty]

example :
    FileCall.survivors
        [.load "a" "1", .analyze "b" "2", .validateAll, .load "c" "3", .analyze "a" "4", .remove "c"] =
      [.analyze "b" "2", .analyze "a" "4"] := by
  decide

end Index

end Traceability
