import Traceability.Proofs.Index.FirstAnalysis
import Traceability.Proofs.Session.Calls
set_option autoImplicit false

/-!
# The end of the warm-up

While a project is being read, the first analysis of a file leaves out what depends on other files.  Reading the project
ends this, for good.  But a project whose patterns cannot be read is never read: a session without a project stays in its
warm-up for ever, and whatever file is opened, its references and definitions that lead nowhere are left out at first.

Settings that cannot be had at all are no such obstacle, since the standard ones take their place, and those are sound.
-/

namespace Traceability

/-- The document whose text an event brings, and the text. -/
def Event.edit? : Event → Option (Locator × String)
  | opened locator text => some (locator, text)
  | changed locator texts => texts.getLast?.map fun text => (locator, text)
  | _ => none

namespace Index

section Dangling

variable {x : Index} {uri : String} {record : FileRecord} {findings : List Finding}

end Dangling

end Index

namespace Session

/-! ## The phase -/

/-- Reading the project ends the warm-up, and nothing else does. -/
theorem phase_step_eq_ready_iff {s : Session} (h : s.stage ≠ .fresh) (d : Disk) (e : Event) :
    (s.step d e).session.index.phase = .ready ↔
      s.index.phase = .ready ∨ s.stage = .running ∧ e = .started ∧ s.workspace.isSome = true := by
  rcases step_cases h d e with ⟨hrunning, hproceed⟩ | ⟨hstopped, hsame, _⟩
  · obtain ⟨policy, published, hsession⟩ := s.proceed_eq d e
    rw [hproceed, hsession, Index.phase_callAll_eq_ready_iff, validateAll_mem_calls_iff]
    simp [hrunning]
  · rw [hsame, hstopped]
    simp

/-- The session is past its warm-up just if there is a project. -/
structure IsWarm (w? : Option Workspace) (s : Session) : Prop where
  started : s.stage ≠ .fresh
  workspace : s.workspace = w?
  ready : s.index.phase = .ready ↔ w?.isSome = true

theorem IsWarm.step {w? : Option Workspace} {s : Session} (h : IsWarm w? s) (d : Disk) (e : Event) :
    IsWarm w? (s.step d e).session := by
  refine ⟨stage_step_ne_fresh h.started d e, (workspace_step h.started d e).trans h.workspace, ?_⟩
  rw [phase_step_eq_ready_iff h.started, h.workspace, h.ready]
  constructor
  · rintro (hready | ⟨_, _, hproject⟩)
    · exact hready
    · exact hproject
  · exact .inl

theorem IsWarm.foldl_advance {w? : Option Workspace} {t : Session × List Message} (h : IsWarm w? t.1)
    (events : List (Disk × Event)) : IsWarm w? (events.foldl advance t).1 := by
  induction events generalizing t with
  | nil => exact h
  | cons e rest ih => exact ih (t := advance t e) (h.step e.1 e.2)

/-! ## Edits -/

section Edits

variable {s : Session} {e : Event} {locator : Locator} {text : String}

/-- An edit keeps the text of the document and takes it in. -/
theorem proceed_of_edit? (h : e.edit? = some (locator, text)) (s : Session) (d : Disk) :
    s.proceed d e =
      .silent (({ s with documents := s.documents.insert locator.uri text } : Session).refresh locator.uri text) := by
  cases e with
  | opened other text' =>
    obtain ⟨rfl, rfl⟩ : other = locator ∧ text' = text := by simpa [Event.edit?] using h
    rfl
  | changed other texts =>
    obtain ⟨text', hlast, hedit⟩ := Option.map_eq_some_iff.1 h
    obtain ⟨rfl, rfl⟩ : other = locator ∧ text' = text := by simpa using hedit
    simp only [proceed, hlast]
  | _ => cases h

theorem index_step_edit (h : e.edit? = some (locator, text)) (hrunning : s.stage = .running) (d : Disk) :
    (s.step d e).session.index = s.index.load locator.uri text ∧ (s.step d e).session.policy = s.policy := by
  obtain ⟨published, hrefreshed⟩ :=
    makes_refresh { s with documents := s.documents.insert locator.uri text } locator.uri text
  rw [step_running hrunning, proceed_of_edit? h]
  unfold Turn.silent
  simp only [hrefreshed, and_true]
  exact s.index.call_analyze locator.uri text

end Edits

/-! ## Runs -/

end Session

end Traceability
