import Traceability.Proofs.Session.View
import Traceability.Proofs.Workspace.Creation
set_option autoImplicit false

/-!
# Runs of a session

A run is a row of events, each with the disk as it is at its moment.  Reading the project makes a session current,
and every event that follows keeps it so.
-/

namespace Traceability

/-! ## The files of a project -/

namespace Workspace

/-- What every file of the project keeps when it is registered holds of the index with all of them. -/
theorem loadInto_induction {motive : Index → Prop} (w : Workspace) (d : Disk) {x : Index} (h : motive x)
    (hload : ∀ file ∈ w.discover d, ∀ text x, motive x → motive (x.load (Locator.uriOfPath file.path) text)) :
    motive (w.loadInto d x).1 := by
  unfold loadInto
  refine List.foldlRecOn (motive := fun loaded : Index × Nat => motive loaded.1) _ _ h ?_
  rintro ⟨y, count⟩ hy file hfile
  simp only
  cases String.fromUTF8? file.content with
  | none => exact hy
  | some text => exact hload file hfile text y hy

end Workspace

namespace Session

/-- The project is read into the index, the files first and then the open documents; what all of them keep holds
of the index on which everything is checked. -/
theorem exists_loadProject_eq {motive : Index → Prop} {s : Session} {w : Workspace} (hw : s.workspace = some w)
    (d : Disk) (h : motive s.index)
    (hfile : ∀ file ∈ w.discover d, ∀ text x, motive x → motive (x.load (Locator.uriOfPath file.path) text))
    (hopen : ∀ uri text x, s.documents[uri]? = some text → motive x → motive (x.load uri text)) :
    ∃ x, motive x ∧ s.loadProject d = ({ s with index := x.validateAll.1 }, x.validateAll.2) := by
  unfold loadProject
  rw [hw]
  refine ⟨_, ?_, rfl⟩
  refine List.foldlRecOn _ _ (w.loadInto_induction d h hfile) ?_
  rintro x hx ⟨uri, text⟩ hitem
  exact hopen uri text x (Std.ExtTreeMap.mem_toList_iff_getElem?_eq_some.1 hitem) hx

/-! ## The beginning -/

section Watched

variable {watched : String → Prop} {s : Session} {log : List Message}

/-- A message that sends no findings leaves the view of the editor as it is. -/
theorem IsCurrent.concat (h : IsCurrent watched s log) {m : Message} (hm : ∀ uri, m.findingsFor? uri = none) :
    IsCurrent watched s (log ++ [m]) := by
  refine ⟨h.started, h.ready, h.servable, h.published, ?_⟩
  intro uri huri
  exact (h.shown uri huri).congr (shown?_concat_of_findingsFor?_eq_none (hm uri) log)

/-- Reading the project makes a session current that has sent nothing before. -/
theorem IsCurrent.begin {w : Workspace} (hstarted : s.stage ≠ .fresh) (hw : s.workspace = some w)
    (hservable : IsServable watched s.index) (hpublished : s.published = ∅)
    (hopen : ∀ uri text, s.documents[uri]? = some text → Serves watched uri) {d : Disk}
    (hfiles : ∀ file ∈ w.discover d, Serves watched (Locator.uriOfPath file.path)) :
    IsCurrent watched (s.begin d).1 (s.begin d).2 := by
  obtain ⟨x, hx, hload⟩ := exists_loadProject_eq hw d hservable
    (fun file hfile text x hx => hx.load (hfiles file hfile) text)
    (fun uri text x huri hx => hx.load (hopen uri text huri) text)
  have hnone : ∀ uri, uri ∉ x.validateAll.2.map Prod.fst → x.validateAll.1.revalidate uri = none := by
    intro uri hout
    rw [Option.eq_none_iff_forall_ne_some]
    intro findings hfindings
    exact hout (List.mem_map.2 ⟨(uri, findings), (Index.mem_validateAll_iff x _).2 hfindings, rfl⟩)
  have hsent : IsCurrent watched ({ s with index := x.validateAll.1 }.publishAll x.validateAll.2).1
      ([.watchFiles] ++ ({ s with index := x.validateAll.1 }.publishAll x.validateAll.2).2) := by
    apply IsCurrent.of_publishAll
    · exact hstarted
    · rfl
    · exact hx.validateAll
    · intro item hitem
      exact (Index.mem_validateAll_iff x item).1 hitem
    · intro uri hout
      simp only [hnone uri hout, hpublished]
      exact Std.ExtTreeMap.getElem?_empty
    · intro uri _ hout
      simp only [hnone uri hout]
      exact .inl rfl
  unfold Session.begin
  rw [hload]
  exact hsent.concat fun uri => rfl

end Watched

end Session

/-! ## Events -/

/-- The documents whose text an event may change. -/
def Event.edited : Event → List Locator
  | opened locator _ => [locator]
  | changed locator _ => [locator]
  | closed locator => [locator]
  | filesChanged changes => changes.map FileChange.locator
  | _ => []

namespace Session

theorem step_running {s : Session} (h : s.stage = .running) (d : Disk) (e : Event) : s.step d e = s.proceed d e := by
  unfold Session.step
  rw [h]

theorem step_stopped {s : Session} (h : s.stage = .stopped) (d : Disk) (e : Event) :
    (s.step d e).session = s ∧ (s.step d e).sent = [] := by
  unfold Session.step
  rw [h]
  exact ⟨rfl, rfl⟩

section Watched

variable {watched : String → Prop} {s : Session} {log : List Message}

/-- What an event does to a running session that is current: all but the beginning, which has been, keeps it so. -/
theorem IsCurrent.proceed (h : IsCurrent watched s log) (d : Disk) {e : Event} (hlater : e ≠ .started)
    (huris : ∀ locator ∈ e.edited, Serves watched locator.uri) :
    IsCurrent watched (s.proceed d e).session (log ++ (s.proceed d e).sent) := by
  have hnothing : IsCurrent watched s (log ++ []) := by
    rw [List.append_nil]
    exact h
  cases e with
  | start folders root related => exact hnothing
  | started => exact absurd rfl hlater
  | opened locator text =>
    have hdocuments := h.withDocuments (s.documents.insert locator.uri text)
    have hrefreshed := hdocuments.refresh (huris locator List.mem_cons_self) text
    simp only [Session.proceed, Turn.silent]
    exact hrefreshed
  | changed locator texts =>
    cases hlast : texts.getLast? with
    | none =>
      simp only [Session.proceed, hlast]
      exact hnothing
    | some text =>
      have hdocuments := h.withDocuments (s.documents.insert locator.uri text)
      have hrefreshed := hdocuments.refresh (huris locator List.mem_cons_self) text
      simp only [Session.proceed, hlast, Turn.silent]
      exact hrefreshed
  | closed locator =>
    have hdocuments := h.withDocuments (s.documents.erase locator.uri)
    have hreloaded := hdocuments.reload d (huris locator List.mem_cons_self)
    simp only [Session.proceed, Turn.silent]
    exact hreloaded
  | filesChanged changes =>
    refine h.followChanges d ?_
    intro change hchange
    exact huris change.locator (List.mem_map_of_mem hchange)
  | findDefinition locator position => exact hnothing
  | findReferences locator position withDefinitions => exact hnothing
  | demote demote locator => exact h.setDemotion demote locator
  | stop => exact ⟨nofun, hnothing.ready, hnothing.servable, hnothing.published, hnothing.shown⟩

theorem IsCurrent.step (h : IsCurrent watched s log) (d : Disk) {e : Event} (hlater : e ≠ .started)
    (huris : ∀ locator ∈ e.edited, Serves watched locator.uri) :
    IsCurrent watched (s.step d e).session (log ++ (s.step d e).sent) := by
  cases hstage : s.stage with
  | fresh => exact absurd hstage h.started
  | running =>
    rw [step_running hstage]
    exact h.proceed d hlater huris
  | stopped =>
    obtain ⟨hsession, hsent⟩ := step_stopped hstage d e
    rw [hsession, hsent, List.append_nil]
    exact h

end Watched

/-! ## Runs -/

/-- A session after one more event, with the messages that it has sent so far. -/
def advance (t : Session × List Message) (e : Disk × Event) : Session × List Message :=
  ((t.1.step e.1 e.2).session, t.2 ++ (t.1.step e.1 e.2).sent)

/-- A session after some events, each with the disk at its moment, and all messages that it has sent. -/
def run (s : Session) (events : List (Disk × Event)) : Session × List Message := events.foldl advance (s, [])

theorem IsCurrent.foldl_advance {watched : String → Prop} {t : Session × List Message}
    (h : IsCurrent watched t.1 t.2) {events : List (Disk × Event)}
    (hevents : ∀ e ∈ events, e.2 ≠ .started ∧ ∀ locator ∈ e.2.edited, Serves watched locator.uri) :
    IsCurrent watched (events.foldl advance t).1 (events.foldl advance t).2 := by
  induction events generalizing t with
  | nil => exact h
  | cons e rest ih =>
    obtain ⟨⟨hlater, huris⟩, hrest⟩ := List.forall_mem_cons.1 hevents
    exact ih (h.step e.1 hlater huris) hrest

/-- A session that the editor has set up, as its first event leaves it. -/
def setUp (directory root : Path) (folders : List Locator) (named : Option Locator) (related : Bool) (d : Disk) :
    Session :=
  let s : Session := { directory, root }
  { s.configure d (projectRoot? root folders named) related with stage := .running }

theorem run_start (directory root : Path) (folders : List Locator) (named : Option Locator) (related : Bool)
    (d : Disk) (events : List (Disk × Event)) :
    run { directory, root } ((d, .start folders named related) :: events) =
      events.foldl advance (setUp directory root folders named related d, []) := by
  rfl

section SetUp

variable {directory root : Path} {folders : List Locator} {named : Option Locator} {related : Bool} {d : Disk}

/-- There is a project just if its patterns can be read.  Below a root that is not text they always can, since there are
no settings. -/
theorem isSome_workspace_setUp (directory root : Path) (folders : List Locator) (named : Option Locator)
    (related : Bool) (d : Disk) :
    (setUp directory root folders named related d).workspace.isSome =
      (Settings.ofProject d (projectRoot? root folders named)).hasValidGlobs := by
  unfold setUp configure
  cases projectRoot? root folders named with
  | none => exact Settings.hasValidGlobs_standard.symm
  | some r => exact (Workspace.isSome_toOption _).trans (Workspace.isOk_create_text directory r _)

/-- The project has the root that counts for the session, or nothing lies in it since this root is not text. -/
theorem workspace_setUp_cases {w : Workspace}
    (hw : (setUp directory root folders named related d).workspace = some w) :
    (projectRoot? root folders named = none ∧ w = Workspace.vacant directory) ∨
      ∃ r, projectRoot? root folders named = some r ∧
        Workspace.create directory r.text (Settings.ofProject d (some r)) = .ok w := by
  unfold setUp configure at hw
  cases hroot : projectRoot? root folders named with
  | none =>
    simp only [hroot] at hw
    exact .inl ⟨rfl, (Option.some.inj hw).symm⟩
  | some r =>
    simp only [hroot] at hw
    exact .inr ⟨r, rfl, Workspace.eq_ok_of_toOption_eq_some hw⟩

end SetUp

/-- The uris of the documents that a session meets: those of the files of its project when it begins, and those that
the events are about. -/
def metUris (s : Session) (d : Disk) (events : List (Disk × Event)) : List String :=
  (s.workspace.toList.flatMap fun w => (w.discover d).map fun file => Locator.uriOfPath file.path) ++
    events.flatMap fun e => e.2.edited.map Locator.uri

/-- After the beginning and some more events a session is current, if no uri that it meets is mixed up with a watched
one. -/
theorem isCurrent_run {watched : String → Prop} (directory root : Path) (folders : List Locator)
    (named : Option Locator) (related : Bool) (d₀ d₁ : Disk) (events : List (Disk × Event))
    (hglobs : (Settings.ofProject d₀ (projectRoot? root folders named)).hasValidGlobs = true)
    (hevents : ∀ e ∈ events, e.2 ≠ .started ∧
      ∀ locator ∈ e.2.edited, (Locator.address? locator.uri).isSome = true)
    (hapart : ∀ other ∈ metUris (setUp directory root folders named related d₀) d₁ events,
      ∀ u, watched u → (Locator.address? other = some u ↔ other = u)) :
    let t := run { directory, root } ((d₀, .start folders named related) :: (d₁, .started) :: events)
    IsCurrent watched t.1 t.2 := by
  intro t
  obtain ⟨w, hw⟩ := Option.isSome_iff_exists.1
    ((isSome_workspace_setUp directory root folders named related d₀).trans hglobs)
  have hbegun : IsCurrent watched ((setUp directory root folders named related d₀).begin d₁).1
      ((setUp directory root folders named related d₀).begin d₁).2 := by
    apply IsCurrent.begin
    · exact nofun
    · exact hw
    · exact IsServable.empty _
    · rfl
    · intro other text htext
      have hnone : (setUp directory root folders named related d₀).documents[other]? = none :=
        Std.ExtTreeMap.getElem?_empty
      rw [hnone] at htext
      cases htext
    · intro file hfile
      refine ⟨Locator.isSome_address?_uriOfPath file.path, ?_⟩
      apply hapart
      unfold metUris
      rw [hw, Option.toList_some, List.flatMap_singleton]
      exact List.mem_append_left _ (List.mem_map.2 ⟨file, hfile, rfl⟩)
  have ht : t = events.foldl advance ((setUp directory root folders named related d₀).begin d₁) := by
    simp only [t, run_start, List.foldl_cons]
    rfl
  rw [ht]
  apply hbegun.foldl_advance
  intro e he
  obtain ⟨hlater, hreadable⟩ := hevents e he
  refine ⟨hlater, ?_⟩
  intro locator hlocator
  refine ⟨hreadable locator hlocator, ?_⟩
  apply hapart
  unfold metUris
  apply List.mem_append_right
  exact List.mem_flatMap.2 ⟨e, he, List.mem_map_of_mem hlocator⟩

/-- In every run in which the patterns of the project can be read and the uris of all edited documents too: when the
project has been read, and after each event that follows, the findings on record for a document are its current ones,
and there are none just for the documents that are not in the index.  The editor shows what is on record, each finding
with the severity of the policy, for every uri that is the address of its own document and of no other one. -/
theorem shown_after_run (directory root : Path) (folders : List Locator) (named : Option Locator) (related : Bool)
    (d₀ d₁ : Disk) (events : List (Disk × Event)) (uri : String)
    (hglobs : (Settings.ofProject d₀ (projectRoot? root folders named)).hasValidGlobs = true)
    (hevents : ∀ e ∈ events, e.2 ≠ .started ∧
      ∀ locator ∈ e.2.edited, (Locator.address? locator.uri).isSome = true) :
    let t := run { directory, root } ((d₀, .start folders named related) :: (d₁, .started) :: events)
    t.1.published[uri]? = t.1.index.revalidate uri ∧
      (t.1.published[uri]? = none ↔ t.1.index.file? uri = none) ∧
      ((∀ other ∈ metUris (setUp directory root folders named related d₀) d₁ events,
          Locator.address? other = some uri ↔ other = uri) →
        IsShown t.1.policy uri t.2 (t.1.index.revalidate uri)) := by
  intro t
  -- What is on record does not depend on addresses, so no uri needs to be watched for it.
  have hrecorded : IsCurrent (fun _ => False) t.1 t.2 := by
    apply isCurrent_run directory root folders named related d₀ d₁ events hglobs hevents
    intro _ _ _ hnone
    exact hnone.elim
  refine ⟨hrecorded.published uri, ?_, ?_⟩
  · rw [hrecorded.published uri]
    exact revalidate_eq_none_iff t.1.index uri
  · intro hown
    have hwatched : IsCurrent (fun u => u = uri) t.1 t.2 := by
      apply isCurrent_run directory root folders named related d₀ d₁ events hglobs hevents
      rintro other hother _ rfl
      exact hown other hother
    exact hwatched.shown uri rfl

/-- A document loses the requirement of another one while it is open, and then all findings become warnings. -/
theorem shown_after_lost_requirement :
    let d : Disk :=
      { files := .ofList
          [(["p", "a.shalldn"], "# *x*\n\n**A** The x **shall** go.\n".toUTF8),
            (["p", "b.rs"], "// $$Implements A\n".toUTF8)] }
    let edited : Locator :=
      { scheme := Locator.fileScheme
        authority := some {}
        route := .segments ["p".toList, "a.shalldn".toList] }
    let events : List (Disk × Event) := [(d, .opened edited "# *x*\n"), (d, .demote true none)]
    let t := run { directory := ⟨["p"]⟩, root := ⟨["p"]⟩ } ((d, .start [] none false) :: (d, .started) :: events)
    t.1.index.revalidate "file:///p/b.rs" ≠ some [] ∧ t.1.index.file? "file:///p/b.rs" ≠ none ∧
      t.1.published["file:///p/b.rs"]? = t.1.index.revalidate "file:///p/b.rs" ∧
      IsShown t.1.policy "file:///p/b.rs" t.2 (t.1.index.revalidate "file:///p/b.rs") := by
  intro d edited events t
  have hglobs : (Settings.ofProject d (projectRoot? ⟨["p"]⟩ [] none)).hasValidGlobs = true := by
    decide +kernel
  have hevents : ∀ e ∈ events, e.2 ≠ .started ∧
      ∀ locator ∈ e.2.edited, (Locator.address? locator.uri).isSome = true := by
    have hreadable : ∀ locator ∈ [edited], (Locator.address? locator.uri).isSome = true := by
      decide +kernel
    intro e he
    rcases List.mem_cons.1 he with rfl | he
    · exact ⟨nofun, hreadable⟩
    · rw [List.mem_singleton] at he
      subst he
      exact ⟨nofun, nofun⟩
  obtain ⟨hpublished, _, hshown⟩ :=
    shown_after_run ⟨["p"]⟩ ⟨["p"]⟩ [] none false d d events "file:///p/b.rs" hglobs hevents
  have hown : ∀ other ∈ metUris (setUp ⟨["p"]⟩ ⟨["p"]⟩ [] none false d) d events,
      Locator.address? other = some "file:///p/b.rs" ↔ other = "file:///p/b.rs" := by
    decide +kernel
  have hfindings : t.1.index.revalidate "file:///p/b.rs" ≠ some [] := by
    decide +kernel
  have hindexed : t.1.index.file? "file:///p/b.rs" ≠ none := by
    rw [ne_eq, ← revalidate_eq_none_iff]
    decide +kernel
  exact ⟨hfindings, hindexed, hpublished, hshown hown⟩

/-- Below a root with two dots in its path the findings go to an address that is not the uri of their document. -/
theorem not_shown_below_parent :
    let d : Disk :=
      { files := .ofList [(["p", "x", "k"], "".toUTF8), (["p", "q", "a.rs"], "$$Implements A".toUTF8)] }
    let named := Locator.ofText? "file:///p/x%2F..%2Fq"
    let t := run { directory := ⟨["p"]⟩, root := ⟨["p"]⟩ } [(d, .start [] named false), (d, .started)]
    projectRoot? ⟨["p"]⟩ [] named = some ⟨["p", "x", "..", "q"]⟩ ∧
      (Settings.ofProject d (projectRoot? ⟨["p"]⟩ [] named)).hasValidGlobs = true ∧
      ¬ IsShown t.1.policy "file:///p/x/../q/a.rs" t.2 (t.1.index.revalidate "file:///p/x/../q/a.rs") ∧
      ¬ IsShown t.1.policy "file:///p/q/a.rs" t.2 (t.1.index.revalidate "file:///p/q/a.rs") := by
  decide +kernel

end Session

end Traceability
