import Traceability.Workspace
set_option autoImplicit false

/-!
# When there is a workspace

Only a root without text and a bad pattern stand in the way of a workspace.
-/

namespace Traceability

/-- Whether all patterns for the files of the project can be read. -/
def Settings.hasValidGlobs (settings : Settings) : Bool :=
  (settings.includePatterns ++ settings.excludePatterns).all fun pattern =>
    (Glob.ofText Workspace.dialect pattern.toList).isOk

theorem Settings.hasValidGlobs_standard : hasValidGlobs {} = true := by
  decide +kernel

namespace Workspace

theorem isOk_readGlobs (patterns : List String) :
    (readGlobs patterns).isOk = patterns.all fun pattern => (Glob.ofText dialect pattern.toList).isOk := by
  induction patterns with
  | nil => rfl
  | cons pattern rest ih =>
    unfold readGlobs at ih ⊢
    rw [List.mapM_cons, List.all_cons, ← ih]
    cases Glob.ofText dialect pattern.toList with
    | error fault => rfl
    | ok glob =>
      generalize List.mapM (m := Except WorkspaceError) _ rest = outcome
      cases outcome with
      | error fault => rfl
      | ok globs => rfl

theorem isOk_create (directory : Path) (root : String) (settings : Settings) :
    (create directory root settings).isOk = (!root.isEmpty && settings.hasValidGlobs) := by
  unfold create Path.absolute? Settings.hasValidGlobs
  rw [List.all_append, ← isOk_readGlobs, ← isOk_readGlobs]
  cases root.isEmpty with
  | true => rfl
  | false =>
    simp only [Bool.false_eq_true, if_false]
    cases readGlobs settings.includePatterns with
    | error fault => rfl
    | ok includes =>
      cases readGlobs settings.excludePatterns with
      | error fault => rfl
      | ok excludes => rfl

/-- A root that is a path has a text, so only a bad pattern stands in the way. -/
theorem isOk_create_text (directory root : Path) (settings : Settings) :
    (create directory root.text settings).isOk = settings.hasValidGlobs := by
  have htext : root.text.isEmpty = false := by
    rw [Bool.eq_false_iff]
    intro hempty
    have hlength := congrArg String.length (String.isEmpty_iff.1 hempty)
    simp [Path.text] at hlength
  rw [isOk_create, htext, Bool.not_false, Bool.true_and]

theorem isSome_toOption {ε α : Type} (outcome : Except ε α) : outcome.toOption.isSome = outcome.isOk := by
  cases outcome with
  | error fault => rfl
  | ok a => rfl

theorem exists_eq_ok {ε α : Type} {outcome : Except ε α} (h : outcome.isOk = true) : ∃ a, outcome = .ok a := by
  cases outcome with
  | error fault => cases h
  | ok a => exact ⟨a, rfl⟩

theorem eq_ok_of_toOption_eq_some {ε α : Type} {outcome : Except ε α} {a : α} (h : outcome.toOption = some a) :
    outcome = .ok a := by
  cases outcome with
  | error fault => cases h
  | ok b => exact congrArg Except.ok (Option.some.inj h)

end Workspace

end Traceability
