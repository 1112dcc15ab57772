import Traceability.Proofs.Session.Run
import Traceability.Proofs.Workspace.Texts
set_option autoImplicit false

/-!
# What a session asks of its index

Whatever an event does to the index of a session, it does by calls about files, which `calls` lists.  So the index of a
session is at any time a new index with a history of calls, and what holds after every history holds in every session.

The invariant of a run is `HasHistory`: besides the history, it says that the index holds the records of all open
documents, each as its text gives it.
-/

namespace Traceability

namespace Index

theorem file?_call_of_target? (x : Index) {c : FileCall} {uri : String} (h : c.target? ≠ some uri) :
    (x.call c).file? uri = x.file? uri := by
  cases c with
  | load other text =>
    have hne : other ≠ uri := by
      rintro rfl
      exact h rfl
    exact (x.file?_load other text uri).trans (if_neg hne)
  | analyze other text =>
    have hne : other ≠ uri := by
      rintro rfl
      exact h rfl
    rw [call_analyze, file?_load, if_neg hne]
  | remove other =>
    have hne : other ≠ uri := by
      rintro rfl
      exact h rfl
    exact (x.file?_remove other uri).trans (if_neg hne)
  | revalidate other => rfl
  | validateAll => rfl

/-- Calls about other files leave the record of a file alone. -/
theorem file?_callAll_of_target? (x : Index) {calls : List FileCall} {uri : String}
    (h : ∀ c ∈ calls, c.target? ≠ some uri) : (x.callAll calls).file? uri = x.file? uri := by
  induction calls generalizing x with
  | nil => rfl
  | cons c rest ih =>
    obtain ⟨hc, hrest⟩ := List.forall_mem_cons.1 h
    exact (ih (x.call c) hrest).trans (x.file?_call_of_target? hc)

/-- Of some texts of different files, each gives its file the record that it stands for. -/
theorem file?_callAll_loads (x : Index) {texts : List (String × String)} (h : (texts.map Prod.fst).Nodup)
    {uri text : String} (hmem : (uri, text) ∈ texts) :
    (x.callAll (FileCall.loads texts)).file? uri = some (x.recordOf uri text) := by
  obtain ⟨before, after, rfl⟩ := List.append_of_mem hmem
  rw [List.map_append, List.nodup_append, List.map_cons, List.nodup_cons] at h
  obtain ⟨_, ⟨hafter, _⟩, _⟩ := h
  have hothers : ∀ c ∈ FileCall.loads after, c.target? ≠ some uri := by
    intro c hc htarget
    obtain ⟨live, hlive, rfl⟩ := List.mem_map.1 hc
    have huri : live.1 = uri := Option.some.inj htarget
    exact hafter (List.mem_map.2 ⟨live, hlive, huri⟩)
  have hsplit : before ++ (uri, text) :: after = before ++ [(uri, text)] ++ after := by
    simp
  have hoptions : (x.callAll (FileCall.loads before)).options = x.options := options_callAll x _
  rw [hsplit, FileCall.loads_append, callAll_append, file?_callAll_of_target? _ hothers, FileCall.loads_append,
    callAll_append]
  have hload := (x.callAll (FileCall.loads before)).file?_load uri text uri
  rw [if_pos rfl, recordOf_congr hoptions] at hload
  exact hload

end Index

namespace Session

/-! ## The calls of an event -/

/-- The text on the disk that counts for a document that is not open: that of the file that its uri denotes, if the file
belongs to the project. -/
def diskText? (s : Session) (d : Disk) (locator : Locator) : Option String :=
  locator.path?.bind fun path => if s.workspace.any (·.isIncluded path) then d.readText? path else none

/-- The calls by which a document is taken in from the disk.  There are none if its uri denotes no path. -/
def reloadCalls (s : Session) (d : Disk) (locator : Locator) : List FileCall :=
  match locator.pathBytes? with
  | none => []
  | some _ =>
    match s.diskText? d locator with
    | some text => [.analyze locator.uri text]
    | none => [.remove locator.uri]

/-- The calls for a file that changed, unless it is open. -/
def changeCalls (s : Session) (d : Disk) (change : FileChange) : List FileCall :=
  if s.documents.contains change.locator.uri then []
  else if change.deleted then [.remove change.locator.uri]
  else s.reloadCalls d change.locator

/-- The calls by which the project is read, if there is one. -/
def projectCalls (s : Session) (d : Disk) : List FileCall :=
  match s.workspace with
  | none => []
  | some w => FileCall.loads (w.texts d) ++ FileCall.loads s.documents.toList ++ [.validateAll]

/-- The calls of an event. -/
def calls (s : Session) (d : Disk) : Event → List FileCall
  | .started => s.projectCalls d
  | .opened locator text => [.analyze locator.uri text]
  | .changed locator texts => texts.getLast?.toList.map fun text => .analyze locator.uri text
  | .closed locator => s.reloadCalls d locator
  | .filesChanged changes => changes.flatMap (s.changeCalls d)
  | _ => []

/-- The open documents after an event. -/
def documentsAfter (s : Session) : Event → Std.ExtTreeMap String String
  | .opened locator text => s.documents.insert locator.uri text
  | .changed locator texts =>
    match texts.getLast? with
    | none => s.documents
    | some text => s.documents.insert locator.uri text
  | .closed locator => s.documents.erase locator.uri
  | _ => s.documents

/-- How far a session has come after an event. -/
def stageAfter (s : Session) : Event → Stage
  | .stop => .stopped
  | _ => s.stage

/-! ## Single steps -/

/-- The session has made some calls of its index, and perhaps has sent findings. -/
def Makes (s : Session) (calls : List FileCall) (s' : Session) : Prop :=
  ∃ published, s' = { s with index := s.index.callAll calls, published }

theorem makes_nil (s : Session) : s.Makes [] s := ⟨s.published, rfl⟩

theorem Makes.append {s s' s'' : Session} {calls later : List FileCall} (h : s.Makes calls s')
    (h' : s'.Makes later s'') : s.Makes (calls ++ later) s'' := by
  obtain ⟨published, rfl⟩ := h
  obtain ⟨published', rfl⟩ := h'
  refine ⟨published', ?_⟩
  rw [Index.callAll_append]

/-- Sending findings changes what is on record, and nothing else. -/
theorem publishAll_eq (s : Session) (items : List (String × List Finding)) :
    ∃ published, (s.publishAll items).1 = { s with published } := by
  induction items generalizing s with
  | nil => exact ⟨s.published, rfl⟩
  | cons item rest ih =>
    obtain ⟨published, hpublish⟩ : ∃ published, (s.publish item.1 item.2).1 = { s with published } := by
      unfold publish
      split
      · exact ⟨s.published, rfl⟩
      · exact ⟨_, rfl⟩
    obtain ⟨published', hrest⟩ := ih (s.publish item.1 item.2).1
    refine ⟨published', ?_⟩
    have hstep : (s.publishAll (item :: rest)).1 = ((s.publish item.1 item.2).1.publishAll rest).1 := rfl
    rw [hstep, hrest, hpublish]

theorem makes_refresh (s : Session) (uri text : String) : s.Makes [.analyze uri text] (s.refresh uri text).1 := by
  unfold refresh
  obtain ⟨published, hpublished⟩ := publishAll_eq { s with index := (s.index.analyze uri text).1 }
    ((uri, (s.index.analyze uri text).2) :: findingsBeside (s.index.analyze uri text).1 uri
      (s.index.linked uri ∪ (s.index.analyze uri text).1.linked uri).toList)
  exact ⟨published, hpublished⟩

theorem makes_forget (s : Session) (uri : String) : s.Makes [.remove uri] (s.forget uri).1 := by
  unfold forget
  obtain ⟨published, hpublished⟩ := publishAll_eq
    { s with index := s.index.remove uri, published := s.published.erase uri }
    (findingsBeside (s.index.remove uri) uri (s.index.linked uri).toList)
  exact ⟨published, hpublished⟩

/-- A document that denotes a path is taken in with the text that counts on the disk, or dropped. -/
theorem reload_of_pathBytes? (s : Session) (d : Disk) {locator : Locator} {bytes : List UInt8}
    (hbytes : locator.pathBytes? = some bytes) :
    s.reload d locator =
      match s.diskText? d locator with
      | some text => s.refresh locator.uri text
      | none => s.forget locator.uri := by
  unfold reload diskText?
  simp only [hbytes, Locator.path?_of_pathBytes? hbytes]
  cases Path.ofBytes? bytes with
  | none => rfl
  | some path =>
    simp only [Option.bind_some]
    cases d.readText? path with
    | none => rw [ite_self]
    | some text =>
      cases s.workspace.any (·.isIncluded path) with
      | true => rfl
      | false => rfl

theorem reload_of_pathBytes?_eq_none (s : Session) (d : Disk) {locator : Locator}
    (hbytes : locator.pathBytes? = none) : s.reload d locator = (s, []) := by
  unfold reload
  rw [hbytes]

theorem makes_reload (s : Session) (d : Disk) (locator : Locator) :
    s.Makes (s.reloadCalls d locator) (s.reload d locator).1 := by
  unfold reloadCalls
  cases hbytes : locator.pathBytes? with
  | none =>
    rw [s.reload_of_pathBytes?_eq_none d hbytes]
    exact s.makes_nil
  | some bytes =>
    rw [s.reload_of_pathBytes? d hbytes]
    cases s.diskText? d locator with
    | none => exact s.makes_forget locator.uri
    | some text => exact s.makes_refresh locator.uri text

/-- What is called for a change depends only on the project and the open documents, which calls leave alone. -/
theorem Makes.changeCalls_eq {s s' : Session} {calls : List FileCall} (h : s.Makes calls s') (d : Disk) :
    s'.changeCalls d = s.changeCalls d := by
  obtain ⟨published, rfl⟩ := h
  rfl

/-- Takes in the change of one file, unless it is open. -/
def followChange (s : Session) (d : Disk) (change : FileChange) : Session × List Message :=
  if s.documents.contains change.locator.uri then (s, [])
  else if change.deleted then s.forget change.locator.uri
  else s.reload d change.locator

theorem followChanges_cons (s : Session) (d : Disk) (change : FileChange) (rest : List FileChange) :
    s.followChanges d (change :: rest) =
      (((s.followChange d change).1.followChanges d rest).1,
        (s.followChange d change).2 ++ ((s.followChange d change).1.followChanges d rest).2) := rfl

theorem makes_followChange (s : Session) (d : Disk) (change : FileChange) :
    s.Makes (s.changeCalls d change) (s.followChange d change).1 := by
  unfold followChange changeCalls
  split
  · exact s.makes_nil
  · split
    · exact s.makes_forget change.locator.uri
    · exact s.makes_reload d change.locator

theorem makes_followChanges (s : Session) (d : Disk) (changes : List FileChange) :
    s.Makes (changes.flatMap (s.changeCalls d)) (s.followChanges d changes).1 := by
  induction changes generalizing s with
  | nil => exact s.makes_nil
  | cons change rest ih =>
    have hfirst := s.makes_followChange d change
    have hrest := ih (s.followChange d change).1
    rw [hfirst.changeCalls_eq d] at hrest
    rw [List.flatMap_cons, followChanges_cons]
    exact hfirst.append hrest

theorem foldl_load_eq (texts : List (String × String)) (x : Index) :
    texts.foldl (fun x (uri, text) => x.load uri text) x = x.callAll (FileCall.loads texts) := by
  unfold Index.callAll FileCall.loads
  rw [List.foldl_map]
  rfl

/-- Reading the project makes the calls that load all texts and then tell all findings. -/
theorem makes_loadProject (s : Session) (d : Disk) : s.Makes (s.projectCalls d) (s.loadProject d).1 := by
  unfold loadProject projectCalls
  cases hw : s.workspace with
  | none => exact s.makes_nil
  | some w =>
    refine ⟨s.published, ?_⟩
    simp only [foldl_load_eq, w.loadInto_fst_eq]
    rw [Index.callAll_concat, Index.callAll_append, hw]
    rfl

theorem makes_begin (s : Session) (d : Disk) : s.Makes (s.projectCalls d) (s.begin d).1 := by
  have hbegin : (s.begin d).1 = ((s.loadProject d).1.publishAll (s.loadProject d).2).1 := rfl
  obtain ⟨published, hpublished⟩ := publishAll_eq (s.loadProject d).1 (s.loadProject d).2
  obtain ⟨_, hloaded⟩ := s.makes_loadProject d
  refine ⟨published, ?_⟩
  rw [hbegin, hpublished, hloaded]

/-- A change of the severities sets the policy and sends findings, and does nothing else. -/
theorem setDemotion_fst (s : Session) (demote : Bool) (locator : Option Locator) :
    ∃ policy published, (s.setDemotion demote locator).1 = { s with policy, published } := by
  cases locator with
  | none =>
    obtain ⟨published, hpublished⟩ :=
      publishAll_eq { s with policy := s.policy.setDemoteErrors demote } s.published.toList
    exact ⟨_, published, hpublished⟩
  | some l =>
    obtain ⟨published, hpublished⟩ :=
      publishAll_eq { s with policy := s.policy.setUriDemoted l.uri demote } s.published.toList
    exact ⟨_, published, hpublished⟩

/-- What an event does to a running session: it makes its calls of the index and sets the open documents. -/
theorem proceed_eq (s : Session) (d : Disk) (e : Event) :
    ∃ policy published, (s.proceed d e).session =
      { s with
        stage := s.stageAfter e
        policy
        published
        documents := s.documentsAfter e
        index := s.index.callAll (s.calls d e) } := by
  cases e with
  | start folders root related => exact ⟨s.policy, s.published, rfl⟩
  | started =>
    obtain ⟨published, hbegun⟩ := s.makes_begin d
    exact ⟨s.policy, published, hbegun⟩
  | opened locator text =>
    simp only [proceed, stageAfter, documentsAfter, calls, Turn.silent]
    obtain ⟨published, hrefreshed⟩ :=
      makes_refresh { s with documents := s.documents.insert locator.uri text } locator.uri text
    exact ⟨s.policy, published, hrefreshed⟩
  | changed locator texts =>
    cases hlast : texts.getLast? with
    | none =>
      simp only [proceed, stageAfter, documentsAfter, calls, hlast]
      exact ⟨s.policy, s.published, rfl⟩
    | some text =>
      simp only [proceed, stageAfter, documentsAfter, calls, hlast, Turn.silent]
      obtain ⟨published, hrefreshed⟩ :=
        makes_refresh { s with documents := s.documents.insert locator.uri text } locator.uri text
      exact ⟨s.policy, published, hrefreshed⟩
  | closed locator =>
    obtain ⟨published, hreloaded⟩ :=
      makes_reload { s with documents := s.documents.erase locator.uri } d locator
    exact ⟨s.policy, published, hreloaded⟩
  | filesChanged changes =>
    obtain ⟨published, hfollowed⟩ := s.makes_followChanges d changes
    exact ⟨s.policy, published, hfollowed⟩
  | findDefinition locator position => exact ⟨s.policy, s.published, rfl⟩
  | findReferences locator position withDefinitions => exact ⟨s.policy, s.published, rfl⟩
  | demote demote locator => exact s.setDemotion_fst demote locator
  | stop => exact ⟨s.policy, s.published, rfl⟩

/-- A session that has been set up goes on, or it is over and nothing happens any more. -/
theorem step_cases {s : Session} (h : s.stage ≠ .fresh) (d : Disk) (e : Event) :
    (s.stage = .running ∧ s.step d e = s.proceed d e) ∨
      (s.stage = .stopped ∧ (s.step d e).session = s ∧ (s.step d e).sent = []) := by
  cases hstage : s.stage with
  | fresh => exact absurd hstage h
  | running => exact .inl ⟨rfl, step_running hstage d e⟩
  | stopped => exact .inr ⟨rfl, step_stopped hstage d e⟩

theorem stageAfter_ne_fresh {s : Session} (h : s.stage ≠ .fresh) (e : Event) : s.stageAfter e ≠ .fresh := by
  cases e with
  | stop => exact nofun
  | _ => exact h

/-! ## What is called -/

theorem target?_of_mem_reloadCalls {s : Session} {d : Disk} {locator : Locator} {c : FileCall}
    (h : c ∈ s.reloadCalls d locator) : c.target? = some locator.uri := by
  unfold reloadCalls at h
  cases hbytes : locator.pathBytes? with
  | none =>
    rw [hbytes] at h
    cases h
  | some bytes =>
    rw [hbytes] at h
    cases htext : s.diskText? d locator with
    | none =>
      simp only [htext, List.mem_singleton] at h
      rw [h]
      rfl
    | some text =>
      simp only [htext, List.mem_singleton] at h
      rw [h]
      rfl

/-- Changes of files are no matter for open documents. -/
theorem target?_of_mem_changeCalls {s : Session} {d : Disk} {change : FileChange} {c : FileCall}
    (h : c ∈ s.changeCalls d change) :
    c.target? = some change.locator.uri ∧ s.documents.contains change.locator.uri = false := by
  unfold changeCalls at h
  split at h
  · cases h
  · next hclosed =>
    refine ⟨?_, Bool.eq_false_iff.2 hclosed⟩
    split at h
    · rw [List.mem_singleton.1 h]
      rfl
    · exact target?_of_mem_reloadCalls h

/-- Once the project has been read, an event is about the documents that it names. -/
theorem target?_of_mem_calls {s : Session} {d : Disk} {e : Event} (hlater : e ≠ .started) {c : FileCall}
    (h : c ∈ s.calls d e) : ∃ locator ∈ e.edited, c.target? = some locator.uri := by
  cases e with
  | started => exact absurd rfl hlater
  | opened locator text =>
    refine ⟨locator, List.mem_singleton_self locator, ?_⟩
    rw [List.mem_singleton.1 h]
    rfl
  | changed locator texts =>
    obtain ⟨text, _, rfl⟩ := List.mem_map.1 h
    exact ⟨locator, List.mem_singleton_self locator, rfl⟩
  | closed locator => exact ⟨locator, List.mem_singleton_self locator, target?_of_mem_reloadCalls h⟩
  | filesChanged changes =>
    obtain ⟨change, hchange, hmem⟩ := List.mem_flatMap.1 h
    exact ⟨change.locator, List.mem_map_of_mem hchange, (target?_of_mem_changeCalls hmem).1⟩
  | _ => cases h

/-- All findings are told when the project is read, and at no other time. -/
theorem validateAll_mem_calls_iff (s : Session) (d : Disk) (e : Event) :
    FileCall.validateAll ∈ s.calls d e ↔ e = .started ∧ s.workspace.isSome = true := by
  have hnone : ∀ calls : List FileCall, (∀ c ∈ calls, c.target?.isSome = true) → FileCall.validateAll ∉ calls := by
    intro calls hcalls hmem
    cases hcalls _ hmem
  cases e with
  | started =>
    unfold calls projectCalls
    cases s.workspace with
    | none => simp
    | some w => simp
  | closed locator =>
    have hreload := hnone (s.reloadCalls d locator) fun c hc => by
      rw [target?_of_mem_reloadCalls hc]
      rfl
    simpa [calls] using hreload
  | filesChanged changes =>
    have hchanges := hnone (changes.flatMap (s.changeCalls d)) fun c hc => by
      obtain ⟨change, _, hmem⟩ := List.mem_flatMap.1 hc
      rw [(target?_of_mem_changeCalls hmem).1]
      rfl
    simpa [calls] using hchanges
  | changed locator texts => simp [calls]
  | _ => simp [calls]

/-! ## Histories -/

/-- The index of a session that was set up was new once and has a history of calls, and it holds the records of all open
documents. -/
structure HasHistory (s : Session) (history : List FileCall) : Prop where
  started : s.stage ≠ .fresh
  index : s.index = (Index.empty s.index.options).callAll history
  documents : ∀ uri text, s.documents[uri]? = some text → s.index.file? uri = some (s.index.recordOf uri text)

theorem HasHistory.coherent {s : Session} {history : List FileCall} (h : s.HasHistory history) : s.index.Coherent := by
  rw [h.index]
  exact (Index.coherent_empty _).callAll history

/-- After an event, the index still holds the records of all documents that are then open. -/
theorem file?_callAll_calls {s : Session}
    (h : ∀ uri text, s.documents[uri]? = some text → s.index.file? uri = some (s.index.recordOf uri text)) (d : Disk)
    (e : Event) {uri text : String} (hopen : (s.documentsAfter e)[uri]? = some text) :
    (s.index.callAll (s.calls d e)).file? uri = some (s.index.recordOf uri text) := by
  have hedit : ∀ other text', (s.documents.insert other text')[uri]? = some text →
      (s.index.callAll [.analyze other text']).file? uri = some (s.index.recordOf uri text) := by
    intro other text' hinsert
    have hcall : s.index.callAll [.analyze other text'] = s.index.load other text' := s.index.call_analyze other text'
    rw [hcall, Index.file?_load]
    by_cases hother : other = uri
    · subst hother
      rw [Std.ExtTreeMap.getElem?_insert_self, Option.some_inj] at hinsert
      rw [if_pos rfl, hinsert]
    · rw [Std.ExtTreeMap.getElem?_insert, if_neg (by simpa using hother)] at hinsert
      rw [if_neg hother]
      exact h uri text hinsert
  cases e with
  | started =>
    unfold calls projectCalls
    cases s.workspace with
    | none => exact h uri text hopen
    | some w =>
      have hmem : (uri, text) ∈ s.documents.toList := Std.ExtTreeMap.mem_toList_iff_getElem?_eq_some.2 hopen
      have hnodup : (s.documents.toList.map Prod.fst).Nodup := by
        rw [Std.ExtTreeMap.map_fst_toList_eq_keys]
        exact Std.ExtTreeMap.nodup_keys
      simp only [Index.callAll_append]
      have hload := Index.file?_callAll_loads (s.index.callAll (FileCall.loads (w.texts d))) hnodup hmem
      rw [Index.recordOf_congr (Index.options_callAll s.index _)] at hload
      exact hload
  | opened locator text' => exact hedit locator.uri text' hopen
  | changed locator texts =>
    simp only [documentsAfter] at hopen
    simp only [calls]
    cases hlast : texts.getLast? with
    | none =>
      rw [hlast] at hopen
      exact h uri text hopen
    | some text' =>
      rw [hlast] at hopen
      exact hedit locator.uri text' hopen
  | closed locator =>
    have hne : locator.uri ≠ uri := by
      rintro rfl
      simp [documentsAfter] at hopen
    have hkept : s.documents[uri]? = some text := by
      simpa [documentsAfter, Std.ExtTreeMap.getElem?_erase, hne] using hopen
    have hothers : ∀ c ∈ s.reloadCalls d locator, c.target? ≠ some uri := by
      intro c hc
      rw [target?_of_mem_reloadCalls hc, ne_eq, Option.some_inj]
      exact hne
    exact (Index.file?_callAll_of_target? s.index hothers).trans (h uri text hkept)
  | filesChanged changes =>
    have hothers : ∀ c ∈ changes.flatMap (s.changeCalls d), c.target? ≠ some uri := by
      intro c hc htarget
      obtain ⟨change, _, hmem⟩ := List.mem_flatMap.1 hc
      obtain ⟨hchanged, hclosed⟩ := target?_of_mem_changeCalls hmem
      rw [hchanged, Option.some_inj] at htarget
      have hopen' : s.documents[uri]? = some text := hopen
      rw [htarget, Std.ExtTreeMap.contains_eq_isSome_getElem?, hopen'] at hclosed
      cases hclosed
    exact (Index.file?_callAll_of_target? s.index hothers).trans (h uri text hopen)
  | _ => exact h uri text hopen

theorem HasHistory.step {s : Session} {history : List FileCall} (h : s.HasHistory history) (d : Disk) (e : Event) :
    (s.step d e).session.HasHistory (history ++ if s.stage = .running then s.calls d e else []) := by
  rcases step_cases h.started d e with ⟨hrunning, hproceed⟩ | ⟨hstopped, hsame, _⟩
  · obtain ⟨policy, published, hsession⟩ := s.proceed_eq d e
    have hoptions : (s.index.callAll (s.calls d e)).options = s.index.options := s.index.options_callAll _
    rw [if_pos hrunning, hproceed, hsession]
    refine ⟨stageAfter_ne_fresh h.started e, ?_, ?_⟩
    · simp only [hoptions, Index.callAll_append]
      rw [← h.index]
    · intro uri text hopen
      simp only [Index.recordOf_congr hoptions]
      exact file?_callAll_calls h.documents d e hopen
  · rw [hsame, hstopped, if_neg nofun, List.append_nil]
    exact h

theorem stage_step_ne_fresh {s : Session} (h : s.stage ≠ .fresh) (d : Disk) (e : Event) :
    (s.step d e).session.stage ≠ .fresh := by
  rcases step_cases h d e with ⟨_, hproceed⟩ | ⟨_, hsame, _⟩
  · obtain ⟨policy, published, hsession⟩ := s.proceed_eq d e
    rw [hproceed, hsession]
    exact stageAfter_ne_fresh h e
  · rw [hsame]
    exact h

/-- The project of a session stays the same from its beginning on. -/
theorem workspace_step {s : Session} (h : s.stage ≠ .fresh) (d : Disk) (e : Event) :
    (s.step d e).session.workspace = s.workspace := by
  rcases step_cases h d e with ⟨_, hproceed⟩ | ⟨_, hsame, _⟩
  · obtain ⟨policy, published, hsession⟩ := s.proceed_eq d e
    rw [hproceed, hsession]
  · rw [hsame]

theorem hasHistory_setUp (directory root : Path) (folders : List Locator) (named : Option Locator) (related : Bool)
    (d : Disk) : (setUp directory root folders named related d).HasHistory [] := by
  refine ⟨nofun, rfl, ?_⟩
  intro uri text hopen
  have hnone : (setUp directory root folders named related d).documents[uri]? = none := Std.ExtTreeMap.getElem?_empty
  rw [hnone] at hopen
  cases hopen

theorem HasHistory.foldl_advance {t : Session × List Message} {history : List FileCall} (h : t.1.HasHistory history)
    (events : List (Disk × Event)) : ∃ later, (events.foldl advance t).1.HasHistory (history ++ later) := by
  induction events generalizing t history with
  | nil => exact ⟨[], by simpa using h⟩
  | cons e rest ih =>
    obtain ⟨later, hlater⟩ := ih (t := advance t e) (h.step e.1 e.2)
    rw [List.append_assoc] at hlater
    exact ⟨_, hlater⟩

/-- Every session that was started has a history. -/
theorem exists_hasHistory_run (directory root : Path) (folders : List Locator) (named : Option Locator) (related : Bool)
    (d : Disk) (events : List (Disk × Event)) :
    ∃ history, (run { directory, root } ((d, .start folders named related) :: events)).1.HasHistory history := by
  rw [run_start]
  exact HasHistory.foldl_advance (t := (setUp directory root folders named related d, []))
    (hasHistory_setUp directory root folders named related d) events

end Session

end Traceability
