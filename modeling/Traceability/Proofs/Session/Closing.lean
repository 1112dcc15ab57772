import Traceability.Proofs.Session.Tracking
set_option autoImplicit false

/-!
# Closing documents

Once a document is closed, its buffer is gone and the disk decides: the document is taken in again with the text of its
file, or it is dropped if there is no such text in the project.  All this happens for documents whose uris denote paths,
also for those whose paths are not text.  For any other document, such as one that was never saved, nothing is dropped:
its record, its share of the ledgers and what the editor shows of it stay for the rest of the session.
-/

namespace Traceability.Session

/-- Nothing is left of the buffer of a document: if there is a text on the disk that counts, the index holds the record
that a new index makes of it, and if not, it has no record of the document and nothing that the document contributed. -/
def IsReleased (s : Session) (d : Disk) (locator : Locator) : Prop :=
  match s.diskText? d locator with
  | some text =>
    s.index.file? locator.uri = ((Index.empty s.index.options).load locator.uri text).file? locator.uri
  | none =>
    s.index.file? locator.uri = none ∧
      (∀ id, ∀ e ∈ s.index.definitions.entries id, e.uri ≠ locator.uri) ∧
      ∀ id, ∀ r ∈ s.index.references.entries id, r.uri ≠ locator.uri

/-! ## The index -/

/-- A document without a record has no share of the ledgers. -/
theorem uri_ne_of_file?_eq_none {x : Index} (h : x.Coherent) {uri : String} (hfile : x.file? uri = none) :
    (∀ id, ∀ e ∈ x.definitions.entries id, e.uri ≠ uri) ∧ ∀ id, ∀ r ∈ x.references.entries id, r.uri ≠ uri := by
  have hnone : ∀ {α : Type} (part : FileRecord → List α), x.recorded part uri = [] := by
    intro α part
    unfold Index.recorded
    rw [hfile, Option.elim_none]
  constructor
  · rintro id e he rfl
    have hrecorded := ((h.definitions.mem_entries_iff id e).1 he).1
    rw [hnone] at hrecorded
    cases hrecorded
  · rintro id r hr rfl
    have hrecorded := ((h.references.mem_entries_iff id r).1 hr).1
    rw [hnone] at hrecorded
    cases hrecorded

/-- A document whose uri denotes a path is released when it is closed. -/
theorem HasHistory.isReleased_closed {s : Session} {history : List FileCall} (h : s.HasHistory history)
    (hrunning : s.stage = .running) (d : Disk) {locator : Locator} {bytes : List UInt8}
    (hbytes : locator.pathBytes? = some bytes) : (s.step d (.closed locator)).session.IsReleased d locator := by
  have hcoherent := (h.step d (.closed locator)).coherent
  rw [step_running hrunning] at hcoherent ⊢
  obtain ⟨index, published, hsession, hoptions, hfile⟩ :=
    setsRecord_reload { s with documents := s.documents.erase locator.uri } d hbytes
  have hclosed : (s.proceed d (.closed locator)).session =
      { s with documents := s.documents.erase locator.uri, index, published } := hsession
  have hself := hfile locator.uri
  rw [if_pos rfl] at hself
  rw [hclosed] at hcoherent ⊢
  unfold IsReleased
  have hsame : diskText? { s with documents := s.documents.erase locator.uri, index, published } d locator =
      s.diskText? d locator := rfl
  have hsame' : diskText? { s with documents := s.documents.erase locator.uri } d locator =
      s.diskText? d locator := rfl
  rw [hsame'] at hself
  rw [hsame]
  cases htext : s.diskText? d locator with
  | none =>
    rw [htext, Option.map_none] at hself
    exact ⟨hself, uri_ne_of_file?_eq_none hcoherent hself⟩
  | some text =>
    rw [htext, Option.map_some] at hself
    have hrecord : (Index.empty index.options).recordOf = s.index.recordOf := Index.recordOf_congr hoptions
    simp only [hself, Index.file?_load, if_true, hrecord]

/-- Closing a document whose uri denotes no path has no part in the index, and nothing is sent. -/
theorem step_closed_of_pathBytes?_eq_none {s : Session} (hrunning : s.stage = .running) (d : Disk)
    {locator : Locator} (hbytes : locator.pathBytes? = none) :
    (s.step d (.closed locator)).session = { s with documents := s.documents.erase locator.uri } ∧
      (s.step d (.closed locator)).sent = [] := by
  have hnothing := reload_of_pathBytes?_eq_none { s with documents := s.documents.erase locator.uri } d hbytes
  rw [step_running hrunning]
  simp only [proceed, Turn.silent, hnothing, and_self]

/-- So the record of its buffer stays. -/
theorem HasHistory.not_isReleased_closed {s : Session} {history : List FileCall} (h : s.HasHistory history)
    (hrunning : s.stage = .running) (d : Disk) {locator : Locator} (hbytes : locator.pathBytes? = none)
    (hopen : s.documents.contains locator.uri = true) :
    ¬ (s.step d (.closed locator)).session.IsReleased d locator := by
  rw [Std.ExtTreeMap.contains_eq_isSome_getElem?] at hopen
  obtain ⟨text, htext⟩ := Option.isSome_iff_exists.1 hopen
  have hfile := h.documents locator.uri text htext
  rw [(step_closed_of_pathBytes?_eq_none hrunning d hbytes).1]
  unfold IsReleased diskText?
  rw [Locator.path?_of_pathBytes?_eq_none hbytes, Option.bind_none]
  rintro ⟨hgone, _⟩
  rw [hgone] at hfile
  cases hfile

/-! ## The view of the editor -/

/-- What is sent for documents with other addresses does not change what is shown. -/
theorem shown?_append_publishAll_of_address?_ne {u : String} {items : List (String × List Finding)}
    (h : ∀ item ∈ items, Locator.address? item.1 ≠ some u) (s : Session) (log : List Message) :
    shown? u (log ++ (s.publishAll items).2) = shown? u log := by
  induction items generalizing s log with
  | nil => simp [publishAll]
  | cons item rest ih =>
    obtain ⟨hitem, hrest⟩ := List.forall_mem_cons.1 h
    have hstep : log ++ (s.publishAll (item :: rest)).2 =
        (log ++ (s.publish item.1 item.2).2) ++ ((s.publish item.1 item.2).1.publishAll rest).2 := by
      rw [List.append_assoc]
      rfl
    rw [hstep, ih hrest]
    unfold publish
    cases hread : Locator.ofText? item.1 with
    | none => simp
    | some locator =>
      have hne : locator.uri ≠ u := by
        rintro rfl
        apply hitem
        unfold Locator.address?
        rw [hread, Option.map_some]
      simp only
      rw [shown?_concat_publish, if_neg hne]

/-- A document that is dropped is shown without findings, unless something else is shown at its address. -/
theorem shown?_append_forget (s : Session) {uri address : String} (haddress : Locator.address? uri = some address)
    (hapart : ∀ other, other ≠ uri → (s.index.file? other).isSome = true → Locator.address? other ≠ some address)
    (log : List Message) : shown? address (log ++ (s.forget uri).2) = some [] := by
  obtain ⟨locator, hread, rfl⟩ := Option.map_eq_some_iff.1 haddress
  unfold forget
  simp only [hread, Option.toList_some, List.map_cons, List.map_nil]
  rw [← List.append_assoc, shown?_append_publishAll_of_address?_ne, shown?_concat_publish, if_pos rfl]
  intro item hitem
  obtain ⟨_, hne, hfindings⟩ := (mem_findingsBeside_iff _ _ _ item).1 hitem
  exact hapart item.1 hne (isSome_file?_remove (Index.isSome_file?_of_revalidate hfindings)).2

/-- A closed document without a text that counts is dropped. -/
theorem sent_step_closed {s : Session} (hrunning : s.stage = .running) {d : Disk} {locator : Locator}
    {bytes : List UInt8} (hbytes : locator.pathBytes? = some bytes) (hnone : s.diskText? d locator = none) :
    (s.step d (.closed locator)).sent =
      (({ s with documents := s.documents.erase locator.uri } : Session).forget locator.uri).2 := by
  have hreload := reload_of_pathBytes? { s with documents := s.documents.erase locator.uri } d hbytes
  have hsame : diskText? { s with documents := s.documents.erase locator.uri } d locator = none := hnone
  rw [hsame] at hreload
  rw [step_running hrunning]
  simp only [proceed, Turn.silent, hreload]

/-! ## Runs -/

/-- In every session that was started, closing an open document releases it just if its uri denotes a path, be it text or
not.  If it denotes none, closing the document does nothing to the index and sends nothing.  If it denotes one without a
text that counts, the document is shown without findings from then on, as long as no other document is shown at its
address. -/
theorem isReleased_closed_iff (directory root : Path) (folders : List Locator) (named : Option Locator)
    (related : Bool) (d₀ : Disk) (events : List (Disk × Event)) (d : Disk) (locator : Locator) :
    let t := run { directory, root } ((d₀, .start folders named related) :: events)
    let turn := t.1.step d (.closed locator)
    t.1.stage = .running → t.1.documents.contains locator.uri = true →
      (turn.session.IsReleased d locator ↔ locator.pathBytes?.isSome = true) ∧
        (locator.pathBytes? = none → turn.session.index = t.1.index ∧ turn.sent = []) ∧
        (locator.pathBytes?.isSome = true → t.1.diskText? d locator = none →
          ∀ address, Locator.address? locator.uri = some address →
            (∀ other, other ≠ locator.uri → (t.1.index.file? other).isSome = true →
              Locator.address? other ≠ some address) →
            shown? address (t.2 ++ turn.sent) = some []) := by
  intro t turn hrunning hopen
  obtain ⟨history, h⟩ := exists_hasHistory_run directory root folders named related d₀ events
  refine ⟨?_, ?_, ?_⟩
  · cases hbytes : locator.pathBytes? with
    | none => exact iff_of_false (h.not_isReleased_closed hrunning d hbytes hopen) nofun
    | some bytes => exact iff_of_true (h.isReleased_closed hrunning d hbytes) rfl
  · intro hbytes
    obtain ⟨hsession, hsent⟩ := step_closed_of_pathBytes?_eq_none hrunning d hbytes
    refine ⟨?_, hsent⟩
    simp only [turn, hsession]
  · intro hdenotes hnone address haddress hapart
    obtain ⟨bytes, hbytes⟩ := Option.isSome_iff_exists.1 hdenotes
    simp only [turn, sent_step_closed hrunning hbytes hnone]
    exact shown?_append_forget { t.1 with documents := t.1.documents.erase locator.uri } haddress hapart t.2

/-- Documents that have not been saved yet are closed, one of them with a path that is not text. -/
theorem isReleased_closed_unsaved :
    let edited := Locator.ofPath ⟨["p", "a.rs"]⟩
    let odd := (Locator.ofText? "file:///p/%FF").getD default
    let events : List (Disk × Event) :=
      [({}, .started), ({}, .opened edited "// $$Implements A\n"), ({}, .opened odd "// $$Implements B\n")]
    let t := run { directory := ⟨["p"]⟩, root := ⟨["p"]⟩ } (({}, .start [] none false) :: events)
    t.1.stage = .running ∧ odd.uri = "file:///p/%FF" ∧ odd.path? = none ∧
      ∀ locator ∈ [edited, odd], t.1.documents.contains locator.uri = true ∧ locator.pathBytes?.isSome = true ∧
        (t.1.step {} (.closed locator)).session.IsReleased {} locator := by
  intro edited odd events t
  have hrunning : t.1.stage = .running := by
    decide +kernel
  have hodd : odd.uri = "file:///p/%FF" ∧ odd.path? = none := by
    decide +kernel
  have hopen : ∀ locator ∈ [edited, odd],
      t.1.documents.contains locator.uri = true ∧ locator.pathBytes?.isSome = true := by
    decide +kernel
  refine ⟨hrunning, hodd.1, hodd.2, fun locator hlocator => ?_⟩
  obtain ⟨hdocument, hbytes⟩ := hopen locator hlocator
  have hclosed := isReleased_closed_iff ⟨["p"]⟩ ⟨["p"]⟩ [] none false {} events {} locator hrunning hdocument
  exact ⟨hdocument, hbytes, hclosed.1.2 hbytes⟩

/-- A document that was never saved has no path at all.  Its buffer stays in the index when it is closed, and the editor
goes on showing what was wrong with it. -/
theorem not_isReleased_closed_untitled :
    let untitled := (Locator.ofText? "untitled:a").getD default
    let t := run { directory := ⟨["p"]⟩, root := ⟨["p"]⟩ }
      [({}, .start [] none false), ({}, .started), ({}, .opened untitled "// $$Implements A\n")]
    let turn := t.1.step {} (.closed untitled)
    untitled.uri = "untitled:a" ∧ t.1.stage = .running ∧ t.1.documents.contains "untitled:a" = true ∧
      turn.session.diskText? {} untitled = none ∧
      (turn.session.index.file? "untitled:a").isSome = true ∧
      (turn.session.index.findReferences "A").map (·.uri) = ["untitled:a"] ∧
      shown? "untitled:a" (t.2 ++ turn.sent) ≠ some [] := by
  decide +kernel

end Traceability.Session
