import Traceability.Proofs.Locator.Detours
import Traceability.Proofs.Session.WarmUp
import Traceability.Proofs.Workspace.Discovery
set_option autoImplicit false

/-!
# Files under several uris

An index takes a file for another one as soon as it gets another uri, and no uri is brought into a normal form before.  A
file that is discovered has the uri of its path.  The editor may write the same file in many ways, as any character may
stand in a uri as its bytes, and then the file has two records and its ids are defined twice.

It does not come to that while the editor writes the uris of files as paths do.  This is so because a session has
records of no files but those that it has met (`discovered_or_sent_of_isSome_file?`), and because the uri of a plain path
denotes the names of this path (`Locator.namesOfUri?_uriOfPath_of_isPlain`).  Names are bytes here, as an editor may also
write the uris of paths that are not text.
-/

namespace Traceability.Session

/-- The uris that the editor sends with some events. -/
def sentUris (events : List (Disk × Event)) : List String := events.flatMap fun e => e.2.edited.map Locator.uri

/-- The editor sends a uri that denotes the path with some names, but not the one which the path has. -/
def IsMisspelled (events : List (Disk × Event)) (names : List (List UInt8)) (uri : String) : Prop :=
  uri ∈ sentUris events ∧ Locator.namesOfUri? uri = some names ∧ uri ≠ Locator.uriOfNames names

/-! ## Which files have records -/

/-- A record in an index after some calls was there before, or one of the calls is about its file. -/
theorem isSome_file?_callAll {x : Index} {calls : List FileCall} {uri : String}
    (h : ((x.callAll calls).file? uri).isSome = true) :
    (x.file? uri).isSome = true ∨ ∃ c ∈ calls, c.target? = some uri := by
  by_cases hcalled : ∃ c ∈ calls, c.target? = some uri
  · exact .inr hcalled
  · left
    rwa [Index.file?_callAll_of_target?] at h
    intro c hc htarget
    exact hcalled ⟨c, hc, htarget⟩

section Steps

variable {s : Session} {uri : String}

/-- Once the project has been read, an event adds no records but those of the documents that it names. -/
theorem isSome_file?_step (h : s.stage ≠ .fresh) (d : Disk) {e : Event} (hlater : e ≠ .started)
    (hfile : ((s.step d e).session.index.file? uri).isSome = true) :
    (s.index.file? uri).isSome = true ∨ uri ∈ e.edited.map Locator.uri := by
  rcases step_cases h d e with ⟨_, hproceed⟩ | ⟨_, hsame, _⟩
  · obtain ⟨policy, published, hsession⟩ := s.proceed_eq d e
    rw [hproceed, hsession] at hfile
    refine (isSome_file?_callAll hfile).imp_right ?_
    rintro ⟨c, hc, htarget⟩
    obtain ⟨locator, hlocator, huri⟩ := target?_of_mem_calls hlater hc
    rw [htarget, Option.some_inj] at huri
    exact List.mem_map.2 ⟨locator, hlocator, huri.symm⟩
  · rw [hsame] at hfile
    exact .inl hfile

theorem isSome_file?_foldl_advance {t : Session × List Message} (h : t.1.stage ≠ .fresh)
    {events : List (Disk × Event)} (hlater : ∀ e ∈ events, e.2 ≠ .started)
    (hfile : ((events.foldl advance t).1.index.file? uri).isSome = true) :
    (t.1.index.file? uri).isSome = true ∨ uri ∈ sentUris events := by
  induction events generalizing t with
  | nil => exact .inl hfile
  | cons e rest ih =>
    obtain ⟨hfirst, hrest⟩ := List.forall_mem_cons.1 hlater
    rcases ih (t := advance t e) (stage_step_ne_fresh h e.1 e.2) hrest hfile with hstep | hsent
    · exact (isSome_file?_step h e.1 hfirst hstep).imp_right (List.mem_append_left _)
    · exact .inr (List.mem_append_right _ hsent)

/-- While no document is open, reading the project is about discovered files alone. -/
theorem exists_mem_discover_of_mem_projectCalls {d : Disk} (hclosed : ∀ other : String, s.documents[other]? = none)
    {c : FileCall} (hc : c ∈ s.projectCalls d) (htarget : c.target? = some uri) :
    ∃ w ∈ s.workspace, ∃ file ∈ w.discover d, uri = Locator.uriOfPath file.path := by
  unfold projectCalls at hc
  cases hw : s.workspace with
  | none =>
    rw [hw] at hc
    cases hc
  | some w =>
    rw [hw] at hc
    rcases List.mem_append.1 hc with hc | hlast
    · rcases List.mem_append.1 hc with hloaded | hopen
      · obtain ⟨live, hlive, rfl⟩ := List.mem_map.1 hloaded
        obtain ⟨file, hfile, htext⟩ := List.mem_filterMap.1 hlive
        obtain ⟨_, _, rfl⟩ := Option.map_eq_some_iff.1 htext
        exact ⟨w, rfl, file, hfile, (Option.some.inj htarget).symm⟩
      · obtain ⟨live, hlive, rfl⟩ := List.mem_map.1 hopen
        have htext := Std.ExtTreeMap.mem_toList_iff_getElem?_eq_some.1 hlive
        rw [hclosed] at htext
        cases htext
    · rw [List.mem_singleton.1 hlast] at htarget
      cases htarget

end Steps

section Runs

variable {directory root : Path} {folders : List Locator} {named : Option Locator} {related : Bool} {d₀ d₁ : Disk}
  {uri : String}

/-- When a session begins, it has records of discovered files alone. -/
theorem isSome_file?_started
    (h : (((setUp directory root folders named related d₀).step d₁ .started).session.index.file? uri).isSome = true) :
    ∃ w ∈ (setUp directory root folders named related d₀).workspace, ∃ file ∈ w.discover d₁,
      uri = Locator.uriOfPath file.path := by
  obtain ⟨_, _, hsession⟩ := (setUp directory root folders named related d₀).proceed_eq d₁ .started
  have hnew : (setUp directory root folders named related d₀).index.file? uri = none := Index.file?_empty _ uri
  rw [step_running rfl, hsession] at h
  rcases isSome_file?_callAll h with hbefore | ⟨c, hc, htarget⟩
  · rw [hnew] at hbefore
    cases hbefore
  · exact exists_mem_discover_of_mem_projectCalls (fun _ => Std.ExtTreeMap.getElem?_empty) hc htarget

/-- A file has no record unless the session has met it: it was discovered, or the editor has sent its uri. -/
theorem discovered_or_sent_of_isSome_file? {events : List (Disk × Event)} (hlater : ∀ e ∈ events, e.2 ≠ .started)
    (h : ((run { directory, root } ((d₀, .start folders named related) :: (d₁, .started) :: events)).1.index.file?
      uri).isSome = true) :
    (∃ w ∈ (setUp directory root folders named related d₀).workspace, ∃ file ∈ w.discover d₁,
        uri = Locator.uriOfPath file.path) ∨
      uri ∈ sentUris events := by
  have hstage : (setUp directory root folders named related d₀).stage ≠ .fresh := nofun
  rw [run_start, List.foldl_cons] at h
  exact (isSome_file?_foldl_advance (stage_step_ne_fresh hstage d₁ .started) hlater h).imp_left isSome_file?_started

theorem slash_not_mem_root_setUp {w : Workspace}
    (hw : (setUp directory root folders named related d₀).workspace = some w) :
    ∀ piece ∈ w.root.pieces, '/' ∉ piece.toList := by
  rcases workspace_setUp_cases hw with ⟨_, rfl⟩ | ⟨_, _, hcreate⟩
  · exact List.forall_mem_nil _
  · exact Workspace.slash_not_mem_root_of_create hcreate

/-- The file that a record is about has the uri of its names, unless the editor has sent another one. -/
theorem eq_uriOfNames_or_isMisspelled {events : List (Disk × Event)} (hnames : d₁.HasNames)
    {names : List (List UInt8)}
    (hfiles : ∀ w ∈ (setUp directory root folders named related d₀).workspace, ∀ file ∈ w.discover d₁,
      Locator.namesOfUri? (Locator.uriOfPath file.path) = some names → file.path.IsPlain)
    (hlater : ∀ e ∈ events, e.2 ≠ .started)
    (h : ((run { directory, root } ((d₀, .start folders named related) :: (d₁, .started) :: events)).1.index.file?
      uri).isSome = true)
    (hdenoted : Locator.namesOfUri? uri = some names) :
    uri = Locator.uriOfNames names ∨ IsMisspelled events names uri := by
  rcases discovered_or_sent_of_isSome_file? hlater h with ⟨w, hw, file, hfile, rfl⟩ | hsent
  · left
    have hslash := Workspace.slash_not_mem_of_mem_discover hnames (slash_not_mem_root_setUp hw) hfile
    have hown := Locator.namesOfUri?_uriOfPath_of_isPlain (hfiles w hw file hfile hdenoted) hslash
    rw [hdenoted, Option.some_inj] at hown
    rw [hown, Locator.uriOfNames_nameBytes]
  · by_cases hown : uri = Locator.uriOfNames names
    · exact .inl hown
    · exact .inr ⟨hsent, hdenoted, hown⟩

end Runs

/-! ## One record for each file -/

/-- If all other uris of a path have no record, loading a text leaves of the definitions for the path just those of the
text. -/
theorem filter_entries_load {x : Index} (hx : x.Coherent) {uri : String} {names : List (List UInt8)}
    (hdenoted : Locator.namesOfUri? uri = some names)
    (hothers : ∀ other, (x.file? other).isSome = true → Locator.namesOfUri? other = some names → other = uri)
    (text id : String) :
    ((x.load uri text).definitions.entries id).filter (fun d => Locator.namesOfUri? d.uri = some names) =
      (Index.contribution x.options (uri, text)).definitions.filter (·.id == id) := by
  have hold : ((x.definitions.entries id).filter fun d => !(d.uri == uri)).filter
      (fun d => Locator.namesOfUri? d.uri = some names) = [] := by
    rw [List.filter_eq_nil_iff]
    intro d hd hsame
    obtain ⟨hmem, hne⟩ := List.mem_filter.1 hd
    have hrecord := Index.isSome_file?_of_mem_recorded ((hx.definitions.mem_entries_iff id d).1 hmem).1
    have hown := hothers d.uri hrecord (decide_eq_true_iff.1 hsame)
    rw [hown] at hne
    simp at hne
  have hnew : ((x.recordOf uri text).definitions.filter (·.id == id)).filter
      (fun d => Locator.namesOfUri? d.uri = some names) = (x.recordOf uri text).definitions.filter (·.id == id) := by
    rw [List.filter_eq_self]
    intro d hd
    rw [x.uri_of_mem_recordOf_definitions (List.mem_filter.1 hd).1]
    exact decide_eq_true hdenoted
  rw [hx.entries_load_definitions, List.filter_append, hold, hnew, List.nil_append, Index.recordOf_eq]

/-- In every run: two uris in the index denote the same names, which need not be text, only if the editor has sent
one of them and it is not the uri of the names, or if a file was discovered for the names whose path is not plain.  So if
the editor sends no other uri of a path than its own, an edit under this uri leaves one record for the path, and of the
definitions just those of the new text. -/
theorem one_record_of_spelling (directory root : Path) (folders : List Locator) (named : Option Locator)
    (related : Bool) (d₀ d₁ : Disk) (events : List (Disk × Event)) (names : List (List UInt8))
    (hnames : d₁.HasNames)
    (hfiles : ∀ w ∈ (setUp directory root folders named related d₀).workspace, ∀ file ∈ w.discover d₁,
      Locator.namesOfUri? (Locator.uriOfPath file.path) = some names → file.path.IsPlain)
    (hlater : ∀ e ∈ events, e.2 ≠ .started) :
    let t := run { directory, root } ((d₀, .start folders named related) :: (d₁, .started) :: events)
    (∀ uri other, (t.1.index.file? uri).isSome = true → (t.1.index.file? other).isSome = true →
        Locator.namesOfUri? uri = some names → Locator.namesOfUri? other = some names →
          uri = other ∨ IsMisspelled events names uri ∨ IsMisspelled events names other) ∧
      ((∀ uri, ¬ IsMisspelled events names uri) → ∀ d e locator text, t.1.stage = .running →
        e.edit? = some (locator, text) → Locator.namesOfUri? locator.uri = some names →
        locator.uri = Locator.uriOfNames names →
          let x := (t.1.step d e).session.index
          (∀ uri, (x.file? uri).isSome = true ∧ Locator.namesOfUri? uri = some names ↔ uri = locator.uri) ∧
            ∀ id, (x.definitions.entries id).filter (fun d => Locator.namesOfUri? d.uri = some names) =
              (Index.contribution x.options (locator.uri, text)).definitions.filter (·.id == id)) := by
  intro t
  have hown : ∀ uri, (t.1.index.file? uri).isSome = true → Locator.namesOfUri? uri = some names →
      uri = Locator.uriOfNames names ∨ IsMisspelled events names uri :=
    fun uri hrecord hdenoted => eq_uriOfNames_or_isMisspelled hnames hfiles hlater hrecord hdenoted
  refine ⟨?_, ?_⟩
  · intro uri other huri hother hdenoted hdenoted'
    rcases hown uri huri hdenoted with hsame | hodd
    · rcases hown other hother hdenoted' with hsame' | hodd
      · exact .inl (hsame.trans hsame'.symm)
      · exact .inr (.inr hodd)
    · exact .inr (.inl hodd)
  · intro hspelled d e locator text hrunning hedit hdenoted hlocator x
    obtain ⟨history, hhistory⟩ :=
      exists_hasHistory_run directory root folders named related d₀ ((d₁, .started) :: events)
    have hx : x = t.1.index.load locator.uri text := (index_step_edit hedit hrunning d).1
    -- The record that the path may have before the edit is the one which the edit replaces.
    have hothers : ∀ uri, (t.1.index.file? uri).isSome = true → Locator.namesOfUri? uri = some names →
        uri = locator.uri := by
      intro uri hrecord hdenoted'
      rw [hlocator]
      exact (hown uri hrecord hdenoted').resolve_right (hspelled uri)
    rw [hx]
    refine ⟨?_, ?_⟩
    · intro uri
      rw [Index.file?_load]
      by_cases huri : locator.uri = uri
      · rw [← huri, if_pos rfl]
        simp [hdenoted]
      · rw [if_neg huri]
        constructor
        · rintro ⟨hrecord, hdenoted'⟩
          exact hothers uri hrecord hdenoted'
        · exact fun hsame => absurd hsame.symm huri
    · intro id
      rw [Index.options_load]
      exact filter_entries_load hhistory.coherent hdenoted hothers text id

/-- A file is discovered with one definition of an id, and the editor opens it and then writes another requirement. -/
theorem one_record_of_opened :
    let d : Disk := { files := .ofList [(["p", "a.shalldn"], "# *x*\n\n**A** The x **shall** go.\n".toUTF8)] }
    let p : Path := ⟨["p", "a.shalldn"]⟩
    let edited := Locator.ofPath p
    let events : List (Disk × Event) := [(d, .opened edited "# *x*\n\n**A** The x **shall** go.\n")]
    let t := run { directory := ⟨["p"]⟩, root := ⟨["p"]⟩ } ((d, .start [] none false) :: (d, .started) :: events)
    let text := "# *x*\n\n**A** The x **shall** go.\n\n**B** The x **shall** stop.\n"
    let x := (t.1.step d (.changed edited [text])).session.index
    edited.uri = "file:///p/a.shalldn" ∧ Locator.namesOfUri? edited.uri = some p.nameBytes ∧
      (∀ uri, (x.file? uri).isSome = true ∧ Locator.namesOfUri? uri = some p.nameBytes ↔
        uri = "file:///p/a.shalldn") ∧
      (x.definitions.entries "A").filter (fun d => Locator.namesOfUri? d.uri = some p.nameBytes) =
        (Index.contribution x.options (edited.uri, text)).definitions.filter (·.id == "A") := by
  intro d p edited events t text x
  have hnames : d.HasNames := by
    decide +kernel
  have hfiles : ∀ w ∈ (setUp ⟨["p"]⟩ ⟨["p"]⟩ [] none false d).workspace, ∀ file ∈ w.discover d,
      Locator.namesOfUri? (Locator.uriOfPath file.path) = some p.nameBytes → file.path.IsPlain := by
    have hfound : ((setUp ⟨["p"]⟩ ⟨["p"]⟩ [] none false d).workspace.toList.flatMap fun w =>
        (w.discover d).map ProjectFile.path) = [p] := by
      decide +kernel
    have hregular : p.IsRegular := .of_head (by decide) (by decide)
    intro w hw file hfile _
    have hpath : file.path ∈ [p] := by
      rw [← hfound]
      exact List.mem_flatMap.2 ⟨w, Option.mem_toList.2 hw, List.mem_map_of_mem hfile⟩
    rw [List.mem_singleton.1 hpath]
    exact hregular.isPlain
  have hlater : ∀ e ∈ events, e.2 ≠ .started := by
    intro e he
    rw [List.mem_singleton.1 he]
    exact nofun
  have hdenoted : Locator.namesOfUri? edited.uri = some p.nameBytes := by
    decide +kernel
  have huri : edited.uri = "file:///p/a.shalldn" := by
    decide +kernel
  have hown : edited.uri = Locator.uriOfNames p.nameBytes := (Locator.uriOfNames_nameBytes p).symm
  have hrunning : t.1.stage = .running := by
    decide +kernel
  have hspelled : ∀ uri, ¬ IsMisspelled events p.nameBytes uri := by
    rintro uri ⟨hsent, _, hne⟩
    rw [List.mem_singleton.1 hsent] at hne
    exact hne hown
  obtain ⟨_, hrecords⟩ :=
    one_record_of_spelling ⟨["p"]⟩ ⟨["p"]⟩ [] none false d d events p.nameBytes hnames hfiles hlater
  obtain ⟨hone, hdefined⟩ :=
    hrecords hspelled d (.changed edited [text]) edited text hrunning rfl hdenoted hown
  rw [huri] at hone
  exact ⟨huri, hdenoted, hone, hdefined "A"⟩

/-- A file that is opened under another uri than that of its path counts twice.  So does one below a root with two dots in
its path, what stands in a directory that is named like a drive with a bar has the path of what stands in the one with a
colon, and a byte that is not text can be written in two ways as any other one. -/
theorem two_records_of_misspelling :
    let document := "# *x*\n\n**A** The x **shall** go.\n"
    let opened (d : Disk) (named : Option Locator) (uris : List String) : Index :=
      (run { directory := ⟨["p"]⟩, root := ⟨["p"]⟩ }
        ((d, .start [] named false) :: (d, .started) ::
          uris.filterMap fun uri => (Locator.ofText? uri).map fun locator => (d, .opened locator document))).1.index
    let x := opened { files := .ofList [(["p", "a.shalldn"], document.toUTF8)] } none ["file:///p/%61.shalldn"]
    let y :=
      opened { files := .ofList [(["p", "x", "k"], "".toUTF8), (["p", "q", "a.shalldn"], document.toUTF8)] }
        (Locator.ofText? "file:///p/x%2F..%2Fq") ["file:///p/q/a.shalldn"]
    let z :=
      opened { files := .ofList [(["C|", "a.shalldn"], document.toUTF8)] }
        (Locator.ofText? "file:///") ["file:///C:/a.shalldn"]
    let bytes := opened {} none ["file:///p/%FF", "file:///p/%ff"]
    x.files.keys = ["file:///p/%61.shalldn", "file:///p/a.shalldn"] ∧
      (x.findDefinition "A").map (·.uri) = ["file:///p/a.shalldn", "file:///p/%61.shalldn"] ∧
      Locator.namesOfUri? "file:///p/a.shalldn" = some (Path.nameBytes ⟨["p", "a.shalldn"]⟩) ∧
      Locator.namesOfUri? "file:///p/%61.shalldn" = some (Path.nameBytes ⟨["p", "a.shalldn"]⟩) ∧
      y.files.keys = ["file:///p/q/a.shalldn", "file:///p/x/../q/a.shalldn"] ∧
      Locator.namesOfUri? "file:///p/x/../q/a.shalldn" = some (Path.nameBytes ⟨["p", "q", "a.shalldn"]⟩) ∧
      Locator.namesOfUri? "file:///p/q/a.shalldn" = some (Path.nameBytes ⟨["p", "q", "a.shalldn"]⟩) ∧
      z.files.keys = ["file:///C:/a.shalldn", "file:///C|/a.shalldn"] ∧
      Locator.namesOfUri? "file:///C|/a.shalldn" = some (Path.nameBytes ⟨["C:", "a.shalldn"]⟩) ∧
      Locator.namesOfUri? "file:///C:/a.shalldn" = some (Path.nameBytes ⟨["C:", "a.shalldn"]⟩) ∧
      bytes.files.keys = ["file:///p/%FF", "file:///p/%ff"] ∧
      Locator.namesOfUri? "file:///p/%FF" = some [[0x70], [0xff]] ∧
      Locator.namesOfUri? "file:///p/%ff" = some [[0x70], [0xff]] := by
  decide +kernel

end Traceability.Session
