import Traceability.Proofs.Locator.Detours
import Traceability.Proofs.Session.Calls
import Traceability.Proofs.Workspace.Discovery
set_option autoImplicit false

/-!
# The index follows buffers and files

While an editor opens, changes and closes documents, and files are written and deleted and the editor tells of it, the
index of a session holds for each file the record of the text that counts: that of the buffer while the document is
open, else that on the disk if the file belongs to the project.  An editor may also open a document whose uri denotes a
path that is not text.  As there is no such file, only the buffer counts for it.

Each event sets the record of one document and leaves the others alone (`SetsRecord`).  The invariant is `Tracks`, and
whatever sets the record of a document to that of the text which then counts keeps it.
-/

namespace Traceability

/-! ## Events of documents and files -/

/-- Something that happens to a document in the editor or to a file on the disk.  The editor tells at once of what
happens to a file. -/
inductive FileEvent where
  | opened (locator : Locator) (text : String)
  | changed (locator : Locator) (texts : List String)
  | closed (locator : Locator)
  | written (names : List String) (bytes : ByteArray)
  /-- A file is deleted; the editor may tell only that it has changed. -/
  | deleted (names : List String) (toldSo : Bool)

namespace FileEvent

/-- What the editor tells of a file. -/
def report (names : List String) (deleted : Bool) : Event :=
  .filesChanged ((Locator.ofText? (Locator.uriOfPath ⟨names⟩)).toList.map fun locator => { locator, deleted })

/-- The event that reaches the session. -/
def event : FileEvent → Event
  | opened locator text => .opened locator text
  | changed locator texts => .changed locator texts
  | closed locator => .closed locator
  | written names _ => report names false
  | deleted names toldSo => report names toldSo

/-- The disk afterwards. -/
def disk (d : Disk) : FileEvent → Disk
  | written names bytes => d.write names bytes
  | deleted names _ => d.delete names
  | _ => d

/-- The texts of the open documents afterwards, by uri.  A change opens a document too. -/
def buffers (texts? : String → Option String) : FileEvent → String → Option String
  | opened locator text => Function.update texts? locator.uri (some text)
  | changed locator texts =>
    match texts.getLast? with
    | none => texts?
    | some text => Function.update texts? locator.uri (some text)
  | closed locator => Function.update texts? locator.uri none
  | _ => texts?

/-- The documents are named by uris in standard form, the files by paths in normal form. -/
def IsProper : FileEvent → Prop
  | opened locator _ => Locator.ofText? locator.uri = some locator
  | changed locator _ => Locator.ofText? locator.uri = some locator
  | closed locator => Locator.ofText? locator.uri = some locator
  | written names _ => Path.IsRegular ⟨names⟩
  | deleted names _ => Path.IsRegular ⟨names⟩

/-- The disk after some events. -/
def diskAfter (d : Disk) (events : List FileEvent) : Disk := events.foldl disk d

/-- The texts of the open documents after some events, when none was open before. -/
def buffersAfter (events : List FileEvent) : String → Option String := events.foldl buffers fun _ => none

/-- The events that reach the session, each with the disk at its moment. -/
def timeline : Disk → List FileEvent → List (Disk × Event)
  | _, [] => []
  | d, e :: rest => (e.disk d, e.event) :: timeline (e.disk d) rest

end FileEvent

/-- The text that counts for a document: that of its buffer, or else that of its file on the disk, if it has one and the
file belongs to the project. -/
def currentText? (w : Option Workspace) (buffers : String → Option String) (d : Disk) (uri : String)
    (file? : Option Path) : Option String :=
  buffers uri <|> file?.bind fun p => if w.any (·.isIncluded p) then d.readText? p else none

/-- The index holds just the record of the text that counts for a document, as a new index would make it. -/
def Session.IsInStep (s : Session) (buffers : String → Option String) (d : Disk) (uri : String)
    (file? : Option Path) : Prop :=
  s.index.file? uri = (currentText? s.workspace buffers d uri file?).bind fun text =>
    ((Index.empty s.index.options).load uri text).file? uri

instance (s : Session) (buffers : String → Option String) (d : Disk) (uri : String) (file? : Option Path) :
    Decidable (s.IsInStep buffers d uri file?) :=
  inferInstanceAs (Decidable (_ = _))

namespace Disk

/-- The disks differ at most in the file with some names. -/
def AgreesBeside (d : Disk) (names : List String) (d' : Disk) : Prop :=
  ∀ other, other ≠ names → d'.files[other]? = d.files[other]?

theorem agreesBeside_write (d : Disk) (names : List String) (bytes : ByteArray) :
    d.AgreesBeside names (d.write names bytes) := by
  intro other hne
  unfold write
  simp [Std.ExtTreeMap.getElem?_insert, Ne.symm hne]

theorem agreesBeside_delete (d : Disk) (names : List String) : d.AgreesBeside names (d.delete names) := by
  intro other hne
  unfold delete
  simp [Std.ExtTreeMap.getElem?_erase, Ne.symm hne]

theorem getElem?_delete_self (d : Disk) (names : List String) : (d.delete names).files[names]? = none := by
  unfold delete
  simp

end Disk

namespace Locator

/-- The uri is that of a file whose path is in normal form and does not end in a drive, or it denotes a path that is not
text, where there is no file. -/
def IsUriOf (uri : String) : Option Path → Prop
  | some p => p.IsRegular ∧ p.endsInDrive = false ∧ uri = uriOfPath p
  | none => ∃ bytes, pathBytesOfUri? uri = some bytes ∧ Path.ofBytes? bytes = none

/-- The locator of a document with the uri of a file is that of the file. -/
theorem eq_ofPath {locator : Locator} (h : ofText? locator.uri = some locator) {p : Path} (hp : p.IsPlain)
    (huri : locator.uri = uriOfPath p) : locator = ofPath p := by
  rw [huri, ofText?_uriOfPath_of_isPlain hp, Option.some_inj] at h
  exact h.symm

/-- What is denoted by the uri of a document is denoted by its locator. -/
theorem pathBytesOfUri?_uri {locator : Locator} (h : ofText? locator.uri = some locator) :
    pathBytesOfUri? locator.uri = locator.pathBytes? := by
  unfold pathBytesOfUri?
  rw [h, Option.bind_some]

/-- The uri of a path is not one that denotes a path without text. -/
theorem not_isUriOf_none {p : Path} (hslash : ∀ name ∈ p.names, '/' ∉ name.toList) :
    ¬ IsUriOf (uriOfPath p) none := by
  rintro ⟨bytes, hdenoted, hunreadable⟩
  obtain ⟨q, hq, _⟩ := exists_pathOfUri?_uriOfPath hslash
  obtain ⟨locator, hread, hpath⟩ := Option.bind_eq_some_iff.1 hq
  obtain ⟨own, hown, htext⟩ := Option.bind_eq_some_iff.1 hpath
  unfold pathBytesOfUri? at hdenoted
  rw [hread, Option.bind_some, hown, Option.some_inj] at hdenoted
  rw [hdenoted, hunreadable] at htext
  cases htext

end Locator

namespace Session

/-! ## What is set -/

/-- The index and what is on record for the editor may change, and the index has a new record, or none, for one document
and the old ones for all others. -/
def SetsRecord (s : Session) (uri : String) (record? : Option FileRecord) (s' : Session) : Prop :=
  ∃ index published, s' = { s with index, published } ∧ index.options = s.index.options ∧
    ∀ other, index.file? other = if uri = other then record? else s.index.file? other

theorem setsRecord_self (s : Session) (uri : String) : s.SetsRecord uri (s.index.file? uri) s := by
  refine ⟨s.index, s.published, rfl, rfl, ?_⟩
  intro other
  split
  · next huri => rw [huri]
  · rfl

theorem setsRecord_refresh (s : Session) (uri text : String) :
    s.SetsRecord uri (some (s.index.recordOf uri text)) (s.refresh uri text).1 := by
  obtain ⟨published, hrefreshed⟩ := s.makes_refresh uri text
  have hindex : s.index.callAll [.analyze uri text] = s.index.load uri text := s.index.call_analyze uri text
  rw [hindex] at hrefreshed
  exact ⟨s.index.load uri text, published, hrefreshed, s.index.options_load uri text, s.index.file?_load uri text⟩

theorem setsRecord_forget (s : Session) (uri : String) : s.SetsRecord uri none (s.forget uri).1 := by
  obtain ⟨published, hforgotten⟩ := s.makes_forget uri
  exact ⟨s.index.remove uri, published, hforgotten, s.index.options_remove uri, s.index.file?_remove uri⟩

/-- A document that denotes a path gets the record of the text there, if the path belongs to the project. -/
theorem setsRecord_reload (s : Session) (d : Disk) {locator : Locator} {bytes : List UInt8}
    (hbytes : locator.pathBytes? = some bytes) :
    s.SetsRecord locator.uri ((s.diskText? d locator).map (s.index.recordOf locator.uri)) (s.reload d locator).1 := by
  rw [s.reload_of_pathBytes? d hbytes]
  cases s.diskText? d locator with
  | none => exact s.setsRecord_forget locator.uri
  | some text => exact s.setsRecord_refresh locator.uri text

theorem followChanges_singleton_fst (s : Session) (d : Disk) (change : FileChange) :
    (s.followChanges d [change]).1 =
      if s.documents.contains change.locator.uri then s
      else if change.deleted then (s.forget change.locator.uri).1
      else (s.reload d change.locator).1 := by
  unfold followChanges
  simp only [followChanges]
  split
  · rfl
  · split
    · rfl
    · rfl

/-! ## The invariant -/

/-- The index holds, for each document whose uri tells where its file is, the record of the text that counts. -/
structure Tracks (w : Workspace) (options : Options) (buffers : String → Option String) (d : Disk)
    (s : Session) : Prop where
  stage : s.stage = .running
  workspace : s.workspace = some w
  settings : s.index.options = options
  documents : ∀ uri, s.documents[uri]? = buffers uri
  file? : ∀ uri file?, Locator.IsUriOf uri file? →
    s.index.file? uri = (currentText? (some w) buffers d uri file?).map ((Index.empty options).recordOf uri)

section Events

variable {w : Workspace} {options : Options} {buffers : String → Option String} {d : Disk} {s : Session}
  {file? : Option Path}

/-- It is enough to set the record of the only document for which another text counts now. -/
theorem Tracks.of_setsRecord (h : Tracks w options buffers d s) {documents : Std.ExtTreeMap String String}
    {buffers' : String → Option String} {d' : Disk} {uri : String} {record? : Option FileRecord} {s' : Session}
    (hset : { s with documents }.SetsRecord uri record? s') (hdocuments : ∀ other, documents[other]? = buffers' other)
    (hothers : ∀ other file?, Locator.IsUriOf other file? → other ≠ uri →
      currentText? (some w) buffers' d' other file? = currentText? (some w) buffers d other file?)
    (hself : ∀ file?, Locator.IsUriOf uri file? →
      record? = (currentText? (some w) buffers' d' uri file?).map ((Index.empty options).recordOf uri)) :
    Tracks w options buffers' d' s' := by
  obtain ⟨index, published, rfl, hoptions, hfile⟩ := hset
  refine ⟨h.stage, h.workspace, hoptions.trans h.settings, hdocuments, ?_⟩
  intro other file? hother
  simp only [hfile]
  split
  · next huri =>
    subst huri
    exact hself file? hother
  · next huri =>
    rw [hothers other file? hother (Ne.symm huri)]
    exact h.file? other file? hother

theorem Tracks.recordOf_eq (h : Tracks w options buffers d s) : s.index.recordOf = (Index.empty options).recordOf :=
  Index.recordOf_congr h.settings

/-! ## Documents -/

theorem currentText?_congr {buffers' : String → Option String} {d' : Disk} {uri : String}
    (hbuffers : buffers' uri = buffers uri) (htext : ∀ p ∈ file?, d'.readText? p = d.readText? p) :
    currentText? (some w) buffers' d' uri file? = currentText? (some w) buffers d uri file? := by
  unfold currentText?
  rw [hbuffers]
  cases file? with
  | none => rfl
  | some p => simp only [Option.bind_some, htext p rfl]

theorem currentText?_of_buffer (uri text : String) :
    currentText? (some w) (Function.update buffers uri (some text)) d uri file? = some text := by
  unfold currentText?
  rw [Function.update_self]
  rfl

theorem getElem?_insert_eq_update (h : Tracks w options buffers d s) (uri text other : String) :
    (s.documents.insert uri text)[other]? = Function.update buffers uri (some text) other := by
  rw [Std.ExtTreeMap.getElem?_insert, h.documents]
  by_cases hother : uri = other
  · subst hother
    simp
  · simp [hother, Function.update_of_ne (Ne.symm hother)]

/-- The text of an open document counts, whatever stands on the disk. -/
theorem Tracks.edit (h : Tracks w options buffers d s) (uri text : String) :
    Tracks w options (Function.update buffers uri (some text)) d
      (({ s with documents := s.documents.insert uri text } : Session).refresh uri text).1 := by
  apply h.of_setsRecord (setsRecord_refresh { s with documents := s.documents.insert uri text } uri text)
  · exact getElem?_insert_eq_update h uri text
  · intro other file? _ hother
    exact currentText?_congr (Function.update_of_ne hother _ _) fun _ _ => rfl
  · intro file? _
    rw [currentText?_of_buffer, ← h.recordOf_eq]
    rfl

/-! ## Files -/

/-- The path that the locator of a file denotes leads to this file. -/
theorem exists_path?_ofPath {p : Path} (hp : p.IsRegular) (hdrive : p.endsInDrive = false) :
    ∃ path, (Locator.ofPath p).path? = some path ∧ (∀ d : Disk, d.readText? path = d.readText? p) ∧
      ∀ w : Workspace, w.isIncluded path = w.isIncluded p := by
  refine ⟨_, Locator.path?_ofPath hp hdrive, ?_, ?_⟩
  · intro d
    split
    · next hnil =>
      have hroot : p = ⟨[]⟩ := by
        rw [← hnil]
      rw [hroot]
      rfl
    · rfl
  · intro w
    split
    · next hnil =>
      have hroot : p = ⟨[]⟩ := by
        rw [← hnil]
      rw [hroot]
      unfold Workspace.isIncluded Path.relativeTo?
      cases w.root.names with
      | nil => rfl
      | cons name names => rfl
    · rfl

/-- Reading a document again gives it the record of the text on the disk, if the document is a file of the project. -/
theorem Tracks.setsRecord_reload (h : Tracks w options buffers d s) (documents : Std.ExtTreeMap String String)
    (d' : Disk) {locator : Locator} (hlocator : Locator.ofText? locator.uri = some locator) :
    ∃ record?, { s with documents }.SetsRecord locator.uri record? ({ s with documents }.reload d' locator).1 ∧
      ∀ file?, Locator.IsUriOf locator.uri file? →
        record? = (file?.bind fun p => if w.isIncluded p then d'.readText? p else none).map
          ((Index.empty options).recordOf locator.uri) := by
  have hdenoted := Locator.pathBytesOfUri?_uri hlocator
  cases hbytes : locator.pathBytes? with
  | none =>
    refine ⟨s.index.file? locator.uri, ?_, ?_⟩
    · rw [reload_of_pathBytes?_eq_none _ d' hbytes]
      exact Session.setsRecord_self { s with documents } locator.uri
    · rintro (_ | p) hfile
      · obtain ⟨bytes, hother, _⟩ := hfile
        rw [hdenoted, hbytes] at hother
        cases hother
      · obtain ⟨hp, hdrive, huri⟩ := hfile
        obtain ⟨path, hpath, _⟩ := exists_path?_ofPath hp hdrive
        rw [← Locator.eq_ofPath hlocator hp.isPlain huri, Locator.path?_of_pathBytes?_eq_none hbytes] at hpath
        cases hpath
  | some bytes =>
    refine ⟨_, Session.setsRecord_reload { s with documents } d' hbytes, ?_⟩
    rintro (_ | p) hfile
    · obtain ⟨own, hown, hunreadable⟩ := hfile
      rw [hdenoted, hbytes, Option.some_inj] at hown
      have hpath : locator.path? = none := by
        rw [Locator.path?_of_pathBytes? hbytes, hown, hunreadable]
      simp only [diskText?, hpath, Option.bind_none, Option.map_none]
    · obtain ⟨hp, hdrive, huri⟩ := hfile
      obtain ⟨path, hpath, htext, hincluded⟩ := exists_path?_ofPath hp hdrive
      rw [← Locator.eq_ofPath hlocator hp.isPlain huri] at hpath
      simp only [diskText?, hpath, Option.bind_some, h.workspace, Option.any_some, htext, hincluded, h.recordOf_eq]

theorem currentText?_of_closed {uri : String} (hclosed : buffers uri = none) :
    currentText? (some w) buffers d uri file? =
      file?.bind fun p => if w.isIncluded p then d.readText? p else none := by
  unfold currentText?
  rw [hclosed]
  rfl

theorem Tracks.close (h : Tracks w options buffers d s) {locator : Locator}
    (hlocator : Locator.ofText? locator.uri = some locator) :
    Tracks w options (Function.update buffers locator.uri none) d
      (({ s with documents := s.documents.erase locator.uri } : Session).reload d locator).1 := by
  obtain ⟨record?, hset, hrecord⟩ := h.setsRecord_reload (s.documents.erase locator.uri) d hlocator
  apply h.of_setsRecord hset
  · intro other
    rw [Std.ExtTreeMap.getElem?_erase, h.documents]
    by_cases hother : locator.uri = other
    · subst hother
      simp
    · simp [hother, Function.update_of_ne (Ne.symm hother)]
  · intro other file? _ hother
    exact currentText?_congr (Function.update_of_ne hother _ _) fun _ _ => rfl
  · intro file? hfile
    rw [hrecord file? hfile, currentText?_of_closed (Function.update_self _ _ _)]

/-- A change of one file does not matter for the others. -/
theorem currentText?_beside {names : List String} {d' : Disk} (hdisk : d.AgreesBeside names d') {uri : String}
    (hfile : Locator.IsUriOf uri file?) (huri : uri ≠ Locator.uriOfPath ⟨names⟩) :
    currentText? (some w) buffers d' uri file? = currentText? (some w) buffers d uri file? := by
  apply currentText?_congr rfl
  rintro p rfl
  obtain ⟨hp, _, rfl⟩ := hfile
  have hne : p.pieces ≠ names := by
    rintro rfl
    exact huri rfl
  rw [d'.readText?_eq hp.named, d.readText?_eq hp.named, hdisk p.pieces hne]

section Report

variable {names : List String} {d' : Disk}

/-- The text of an open document counts, so that its file has changed is of no account. -/
theorem Tracks.reportOpen (h : Tracks w options buffers d s) (hdisk : d.AgreesBeside names d')
    (hopen : s.documents.contains (Locator.uriOfPath ⟨names⟩) = true) : Tracks w options buffers d' s := by
  apply h.of_setsRecord (setsRecord_self s (Locator.uriOfPath ⟨names⟩)) h.documents
  · exact fun _ _ hfile huri => currentText?_beside hdisk hfile huri
  · intro file? hfile
    have hbuffer : (buffers (Locator.uriOfPath ⟨names⟩)).isSome = true := by
      rw [← h.documents, ← Std.ExtTreeMap.contains_eq_isSome_getElem?]
      exact hopen
    obtain ⟨text, htext⟩ := Option.isSome_iff_exists.1 hbuffer
    have hcurrent := h.file? _ file? hfile
    unfold currentText? at hcurrent ⊢
    rw [htext] at hcurrent ⊢
    exact hcurrent

/-- A file that is gone and not open has no record. -/
theorem Tracks.reportGone (h : Tracks w options buffers d s) (hnames : Path.IsRegular ⟨names⟩)
    (hdisk : d.AgreesBeside names d') (hclosed : buffers (Locator.uriOfPath ⟨names⟩) = none)
    (hgone : d'.files[names]? = none) :
    Tracks w options buffers d' (s.forget (Locator.uriOfPath ⟨names⟩)).1 := by
  apply h.of_setsRecord (s.setsRecord_forget (Locator.uriOfPath ⟨names⟩)) h.documents
  · exact fun _ _ hfile huri => currentText?_beside hdisk hfile huri
  · rintro (_ | p) hfile
    · rw [currentText?_of_closed hclosed]
      rfl
    · obtain ⟨hp, _, huri⟩ := hfile
      obtain rfl := Locator.eq_of_uriOfPath_eq hnames hp huri
      rw [currentText?_of_closed hclosed, Option.bind_some, d'.readText?_eq hp.named, hgone, Option.bind_none, ite_self]
      rfl

/-- A file that has changed and is not open is read again. -/
theorem Tracks.reportChange (h : Tracks w options buffers d s) (hnames : Path.IsRegular ⟨names⟩)
    (hdisk : d.AgreesBeside names d') (hclosed : buffers (Locator.uriOfPath ⟨names⟩) = none) :
    Tracks w options buffers d' (s.reload d' (Locator.ofPath ⟨names⟩)).1 := by
  have hlocator : Locator.ofText? (Locator.ofPath ⟨names⟩).uri = some (Locator.ofPath ⟨names⟩) :=
    Locator.ofText?_uriOfPath_of_isPlain hnames.isPlain
  obtain ⟨record?, hset, hrecord⟩ := h.setsRecord_reload s.documents d' hlocator
  apply h.of_setsRecord hset h.documents
  · exact fun _ _ hfile huri => currentText?_beside hdisk hfile huri
  · intro file? hfile
    rw [hrecord file? hfile]
    exact congrArg _ (currentText?_of_closed hclosed).symm

/-- When a file changes and the editor tells of it, the record of the file changes with it, unless it is open. -/
theorem Tracks.report (h : Tracks w options buffers d s) (hnames : Path.IsRegular ⟨names⟩)
    (hdisk : d.AgreesBeside names d') {deleted : Bool} (hdeleted : deleted = true → d'.files[names]? = none) :
    Tracks w options buffers d'
      (s.followChanges d' [{ locator := Locator.ofPath ⟨names⟩, deleted }]).1 := by
  rw [followChanges_singleton_fst]
  split
  · next hopen => exact h.reportOpen hdisk hopen
  · next hclosed =>
    have hbuffer : buffers (Locator.uriOfPath ⟨names⟩) = none := by
      rw [← h.documents, ← Option.not_isSome_iff_eq_none, ← Std.ExtTreeMap.contains_eq_isSome_getElem?]
      exact hclosed
    split
    · next hgone => exact h.reportGone hnames hdisk hbuffer (hdeleted hgone)
    · exact h.reportChange hnames hdisk hbuffer

end Report

/-! ## Runs -/

theorem report_eq {names : List String} (hnames : Path.IsRegular ⟨names⟩) (deleted : Bool) :
    FileEvent.report names deleted = .filesChanged [{ locator := Locator.ofPath ⟨names⟩, deleted }] := by
  unfold FileEvent.report
  rw [Locator.ofText?_uriOfPath_of_isPlain hnames.isPlain]
  rfl

/-- Every event keeps the index in step. -/
theorem Tracks.step (h : Tracks w options buffers d s) {e : FileEvent} (he : e.IsProper) :
    Tracks w options (e.buffers buffers) (e.disk d) (s.step (e.disk d) e.event).session := by
  rw [step_running h.stage]
  cases e with
  | opened locator text =>
    simp only [FileEvent.event, Session.proceed, Turn.silent]
    exact h.edit locator.uri text
  | changed locator texts =>
    cases hlast : texts.getLast? with
    | none =>
      simp only [FileEvent.buffers, FileEvent.event, Session.proceed, hlast]
      exact h
    | some text =>
      simp only [FileEvent.buffers, FileEvent.event, Session.proceed, Turn.silent, hlast]
      exact h.edit locator.uri text
  | closed locator =>
    simp only [FileEvent.event, Session.proceed, Turn.silent]
    exact h.close he
  | written names bytes =>
    simp only [FileEvent.event, report_eq he, Session.proceed, Turn.silent]
    exact h.report he (d.agreesBeside_write names bytes) fun hfalse => absurd hfalse Bool.false_ne_true
  | deleted names toldSo =>
    simp only [FileEvent.event, report_eq he, Session.proceed, Turn.silent]
    exact h.report he (d.agreesBeside_delete names) fun _ => d.getElem?_delete_self names

/-- So does every row of events. -/
theorem Tracks.foldl_advance {log : List Message} (h : Tracks w options buffers d s) {events : List FileEvent}
    (hevents : ∀ e ∈ events, e.IsProper) :
    Tracks w options (events.foldl FileEvent.buffers buffers) (FileEvent.diskAfter d events)
      ((FileEvent.timeline d events).foldl advance (s, log)).1 := by
  induction events generalizing buffers d s log with
  | nil => exact h
  | cons e rest ih =>
    obtain ⟨he, hrest⟩ := List.forall_mem_cons.1 hevents
    exact ih (h.step he) hrest

/-! ## The beginning -/

/-- Reading the project gives each file the record of its text on the disk, where no ignore file has a say. -/
theorem file?_loadInto_of_isUriOf (hnames : d.HasNames) (hfree : d.IsFreeOfRules w.root.names)
    (hkept : d.IsKeptByUser w.root.names) (htidy : w.HasTidyRoot d)
    (hroot : ∀ piece ∈ w.root.pieces, '/' ∉ piece.toList) {uri : String} (hfile : Locator.IsUriOf uri file?) :
    (w.loadInto d (Index.empty options)).1.file? uri =
      (currentText? (some w) (fun _ => none) d uri file?).map ((Index.empty options).recordOf uri) := by
  rw [currentText?_of_closed rfl]
  cases file? with
  | none =>
    refine w.loadInto_induction (motive := fun x => x.file? uri = none) d (Index.file?_empty options uri) ?_
    intro file hmem text x hx
    have hother : Locator.uriOfPath file.path ≠ uri := by
      rintro rfl
      exact Locator.not_isUriOf_none (Workspace.slash_not_mem_of_mem_discover hnames hroot hmem) hfile
    rw [Index.file?_load, if_neg hother]
    exact hx
  | some p =>
    obtain ⟨hp, _, rfl⟩ := hfile
    exact Workspace.file?_loadInto options hnames hfree hkept htidy hp.named

/-- There is nothing to read below a root that is not text. -/
theorem file?_loadInto_vacant (directory : Path) (d : Disk) (options : Options) (uri : String) :
    ((Workspace.vacant directory).loadInto d (Index.empty options)).1.file? uri =
      (currentText? (some (Workspace.vacant directory)) (fun _ => none) d uri file?).map
        ((Index.empty options).recordOf uri) := by
  rw [currentText?_of_closed rfl, Workspace.loadInto_fst, Workspace.discover_vacant]
  simp only [Workspace.isIncluded_vacant, Bool.false_eq_true, if_false, Option.bind_fun_none]
  exact Index.file?_empty options uri

/-- The beginning brings the index in step if reading the project does. -/
theorem Tracks.begin (hstage : s.stage = .running) (hworkspace : s.workspace = some w)
    (hindex : s.index = Index.empty options) (hdocuments : s.documents = ∅)
    (hloaded : ∀ uri file?, Locator.IsUriOf uri file? →
      (w.loadInto d (Index.empty options)).1.file? uri =
        (currentText? (some w) (fun _ => none) d uri file?).map ((Index.empty options).recordOf uri)) :
    Tracks w options (fun _ => none) d (s.begin d).1 := by
  have hload : s.loadProject d =
      ({ s with index := (w.loadInto d s.index).1.validateAll.1 }, (w.loadInto d s.index).1.validateAll.2) := by
    unfold loadProject
    simp only [hworkspace, hdocuments]
    rfl
  have hbegin : (s.begin d).1 = ((s.loadProject d).1.publishAll (s.loadProject d).2).1 := rfl
  obtain ⟨published, hpublished⟩ := publishAll_eq (s.loadProject d).1 (s.loadProject d).2
  rw [hbegin, hpublished, hload, hindex]
  refine ⟨hstage, hworkspace, ?_, ?_, hloaded⟩
  · exact w.loadInto_induction (motive := fun x => x.options = options) d rfl fun file _ text x hx =>
      (x.options_load _ text).trans hx
  · intro uri
    simp only [hdocuments]
    exact Std.ExtTreeMap.getElem?_empty

theorem Tracks.isInStep (h : Tracks w options buffers d s) {uri : String} (hfile : Locator.IsUriOf uri file?) :
    s.IsInStep buffers d uri file? := by
  unfold IsInStep
  rw [h.file? uri file? hfile, h.workspace, h.settings]
  cases currentText? (some w) buffers d uri file? with
  | none => rfl
  | some text => simp [Index.file?_load]

end Events

/-- In every run in which the patterns of the project can be read and no ignore file has a say when the project is read:
after the beginning and whatever happens to documents and files, the index holds for each document just the record of
the text that counts.  This is so for the uris of files, and for those at which there can be no file. -/
theorem isInStep_after_run (directory root : Path) (folders : List Locator) (named : Option Locator) (related : Bool)
    (d₀ d₁ : Disk) (events : List FileEvent) (uri : String) (file? : Option Path)
    (hglobs : (Settings.ofProject d₀ (projectRoot? root folders named)).hasValidGlobs = true)
    (hnames : d₁.HasNames)
    (hroot : ∀ _ ∈ projectRoot? root folders named, ∀ w ∈ (setUp directory root folders named related d₀).workspace,
      d₁.IsFreeOfRules w.root.names ∧ d₁.IsKeptByUser w.root.names ∧
        (w.root.pieces.getLast? = some "" → w.root.names ∉ d₁.files))
    (hevents : ∀ e ∈ events, e.IsProper) (hfile : Locator.IsUriOf uri file?) :
    let t := run { directory, root }
      ((d₀, .start folders named related) :: (d₁, .started) :: FileEvent.timeline d₁ events)
    t.1.IsInStep (FileEvent.buffersAfter events) (FileEvent.diskAfter d₁ events) uri file? := by
  intro t
  let s := setUp directory root folders named related d₀
  obtain ⟨w, hw⟩ := Option.isSome_iff_exists.1
    ((isSome_workspace_setUp directory root folders named related d₀).trans hglobs)
  have hbegun : Tracks w s.index.options (fun _ => none) d₁ (s.begin d₁).1 := by
    apply Tracks.begin rfl hw rfl rfl
    intro other otherFile? hother
    rcases workspace_setUp_cases hw with ⟨_, rfl⟩ | ⟨r, hr, hcreate⟩
    · exact file?_loadInto_vacant directory d₁ s.index.options other
    · obtain ⟨hfree, hkept, hslashed⟩ := hroot r hr w hw
      have htidy : w.HasTidyRoot d₁ := ⟨Workspace.root_pieces_of_create hcreate, hslashed⟩
      exact file?_loadInto_of_isUriOf hnames hfree hkept htidy (Workspace.slash_not_mem_root_of_create hcreate) hother
  have ht : t = (FileEvent.timeline d₁ events).foldl advance (s.begin d₁) := by
    simp only [t, run_start, List.foldl_cons]
    rfl
  rw [ht]
  exact (hbegun.foldl_advance hevents).isInStep hfile

/-- A file is changed while it is open and closed then, a document is deleted of which only a change is told, and one at
a path that is not text is opened and closed. -/
theorem isInStep_after_unsaved_edit :
    let d : Disk :=
      { files := .ofList
          [(["p", "a.shalldn"], "# *x*\n\n**A** The x **shall** go.\n".toUTF8),
            (["p", "b.rs"], "// $$Implements A\n".toUTF8)] }
    let edited := Locator.ofPath ⟨["p", "b.rs"]⟩
    let odd : Locator :=
      { scheme := Locator.fileScheme
        authority := some {}
        route := .segments ["p".toList, "%FF".toList] }
    let events : List FileEvent :=
      [.opened edited "// $$Implements B\n", .written ["p", "b.rs"] "// $$Implements C\n".toUTF8, .closed edited,
        .deleted ["p", "a.shalldn"] false, .opened odd "// $$Implements D\n", .closed odd]
    let t := run { directory := ⟨["p"]⟩, root := ⟨["p"]⟩ }
      ((d, .start [] none false) :: (d, .started) :: FileEvent.timeline d events)
    let buffers := FileEvent.buffersAfter events
    let d' := FileEvent.diskAfter d events
    d.HasNames ∧ (∀ e ∈ events, e.IsProper) ∧ Locator.IsUriOf "file:///p/b.rs" (some ⟨["p", "b.rs"]⟩) ∧
      currentText? t.1.workspace buffers d' "file:///p/b.rs" (some ⟨["p", "b.rs"]⟩) = some "// $$Implements C\n" ∧
      t.1.IsInStep buffers d' "file:///p/b.rs" (some ⟨["p", "b.rs"]⟩) ∧
      t.1.IsInStep buffers d' "file:///p/a.shalldn" (some ⟨["p", "a.shalldn"]⟩) ∧
      odd.uri = "file:///p/%FF" ∧ Locator.IsUriOf "file:///p/%FF" none ∧ t.1.IsInStep buffers d' "file:///p/%FF" none ∧
      t.1.index.file? "file:///p/%FF" = none := by
  intro d edited odd events t buffers d'
  have hglobs : (Settings.ofProject d (projectRoot? ⟨["p"]⟩ [] none)).hasValidGlobs = true := by
    decide +kernel
  have hnames : d.HasNames := by
    decide +kernel
  have hroot : ∀ _ ∈ projectRoot? ⟨["p"]⟩ [] none, ∀ w ∈ (setUp ⟨["p"]⟩ ⟨["p"]⟩ [] none false d).workspace,
      d.IsFreeOfRules w.root.names ∧ d.IsKeptByUser w.root.names ∧
        (w.root.pieces.getLast? = some "" → w.root.names ∉ d.files) := by
    have hplain : ∀ w ∈ (setUp ⟨["p"]⟩ ⟨["p"]⟩ [] none false d).workspace,
        d.IsFreeOfRules w.root.names ∧ (w.root.pieces.getLast? = some "" → w.root.names ∉ d.files) := by
      decide +kernel
    intro _ _ w hw
    exact ⟨(hplain w hw).1, fun _ _ _ => nofun, (hplain w hw).2⟩
  have hb : Path.IsRegular ⟨["p", "b.rs"]⟩ := Path.IsRegular.of_head (by decide) (by decide)
  have ha : Path.IsRegular ⟨["p", "a.shalldn"]⟩ := Path.IsRegular.of_head (by decide) (by decide)
  have hedited : Locator.ofText? edited.uri = some edited := by
    decide +kernel
  have hodd : Locator.ofText? odd.uri = some odd := by
    decide +kernel
  have hevents : ∀ e ∈ events, e.IsProper := by
    simp only [events, List.forall_mem_cons]
    exact ⟨hedited, hb, hedited, ha, hodd, hodd, fun _ hnone => absurd hnone List.not_mem_nil⟩
  have htext : currentText? t.1.workspace buffers d' "file:///p/b.rs" (some ⟨["p", "b.rs"]⟩) =
      some "// $$Implements C\n" := by
    decide +kernel
  have hreadB : Locator.IsUriOf "file:///p/b.rs" (some ⟨["p", "b.rs"]⟩) := ⟨hb, by decide, by decide +kernel⟩
  have hreadA : Locator.IsUriOf "file:///p/a.shalldn" (some ⟨["p", "a.shalldn"]⟩) := ⟨ha, by decide, by decide +kernel⟩
  have hnothing : Locator.IsUriOf "file:///p/%FF" none :=
    ⟨[0x2f, 0x70, 0x2f, 0xff], by decide +kernel, by decide +kernel⟩
  have huri : odd.uri = "file:///p/%FF" := by
    decide +kernel
  have hstep : ∀ uri file?, Locator.IsUriOf uri file? → t.1.IsInStep buffers d' uri file? := fun uri file? hfile =>
    isInStep_after_run ⟨["p"]⟩ ⟨["p"]⟩ [] none false d d events uri file? hglobs hnames hroot hevents hfile
  have hgone : t.1.index.file? "file:///p/%FF" = none := hstep "file:///p/%FF" none hnothing
  exact ⟨hnames, hevents, hreadB, htext, hstep _ _ hreadB, hstep _ _ hreadA, huri, hnothing, hstep _ _ hnothing, hgone⟩

/-- The index falls behind where a path cannot be told from its uri, and where the beginning and the later events look
at a project differently: below a root with two dots in its path, for a file whose name ends in a drive, with an ignore
file above the root or one of the user, and for a root that is a file and is written with a slash. -/
theorem not_isInStep_after_run :
    (let d : Disk :=
        { files := .ofList [(["p", "x", "k"], "".toUTF8), (["p", "q", "a.rs"], "$$Implements A".toUTF8)] }
      let events : List FileEvent := [.written ["p", "q", "a.rs"] "$$Implements B".toUTF8]
      let t := run { directory := ⟨["p"]⟩, root := ⟨["p"]⟩ }
        ((d, .start [] (Locator.ofText? "file:///p/x%2F..%2Fq") false) :: (d, .started) ::
          FileEvent.timeline d events)
      let uri := "file:///p/x/../q/a.rs"
      let p : Path := ⟨["p", "x", "..", "q", "a.rs"]⟩
      (∀ names ∈ d.files.keys, ∀ name ∈ names, name ∉ Workspace.ruleNames) ∧ Locator.uriOfPath p = uri ∧
        currentText? t.1.workspace (FileEvent.buffersAfter events) (FileEvent.diskAfter d events) uri (some p) =
          some "$$Implements B" ∧
        ¬ t.1.IsInStep (FileEvent.buffersAfter events) (FileEvent.diskAfter d events) uri (some p)) ∧
    (let events : List FileEvent := [.written ["p", "a:"] "$$Implements A".toUTF8]
      let t := run { directory := ⟨["p"]⟩, root := ⟨["p"]⟩ }
        (({}, .start [] none false) :: ({}, .started) :: FileEvent.timeline {} events)
      let uri := "file:///p/a:"
      let p : Path := ⟨["p", "a:"]⟩
      Locator.uriOfPath p = uri ∧
        currentText? t.1.workspace (FileEvent.buffersAfter events) (FileEvent.diskAfter {} events) uri (some p) =
          some "$$Implements A" ∧
        ¬ t.1.IsInStep (FileEvent.buffersAfter events) (FileEvent.diskAfter {} events) uri (some p)) ∧
    (let isIgnoredByUser? (names : List String) (_ : Bool) : Option Bool :=
        if names = ["p", "q", "a.rs"] then some true else none
      let disks : List Disk :=
        [{ files := .ofList [(["p", ".gitignore"], "a.rs".toUTF8), (["p", "q", "a.rs"], "$$Implements A".toUTF8)] },
          { files := .ofList [(["p", "q", "a.rs"], "$$Implements A".toUTF8)], isIgnoredByUser? }]
      let uri := "file:///p/q/a.rs"
      let p : Path := ⟨["p", "q", "a.rs"]⟩
      Locator.uriOfPath p = uri ∧
        ∀ d ∈ disks,
          let t := run { directory := ⟨["p"]⟩, root := ⟨["p"]⟩ }
            [(d, .start [] (Locator.ofText? "file:///p/q") false), (d, .started)]
          currentText? t.1.workspace (FileEvent.buffersAfter []) d uri (some p) = some "$$Implements A" ∧
            ¬ t.1.IsInStep (FileEvent.buffersAfter []) d uri (some p)) ∧
    let d : Disk := { files := .ofList [(["p", "f"], "$$Implements A".toUTF8)] }
    let t := run { directory := ⟨["p"]⟩, root := ⟨["p"]⟩ }
      [(d, .start [] (Locator.ofText? "file:///p/f/") false), (d, .started)]
    let uri := "file:///p/f"
    let p : Path := ⟨["p", "f"]⟩
    Locator.uriOfPath p = uri ∧
      currentText? t.1.workspace (FileEvent.buffersAfter []) d uri (some p) = some "$$Implements A" ∧
      ¬ t.1.IsInStep (FileEvent.buffersAfter []) d uri (some p) := by
  decide +kernel

end Session

end Traceability
