import Mathlib.Data.List.Induction
import Traceability.Severity
set_option autoImplicit false

/-!
# Severities after changes of the policy

The settings set a policy up; after that the findings of one file, or all findings, are demoted and taken back in any
order.  What counts for a finding is its category, the last change about all findings and the last change about its own
file.  So changes about other files make no difference, nor does the order in which changes about different things are
mixed.
-/

namespace Traceability

/-! ## Tags -/

namespace Category

theorem ofTag?_eq_some_iff (tag : String) (c : Category) : ofTag? tag = some c ↔ tag = c.tag := by
  constructor
  · intro h
    have hfound := List.find?_some h
    exact (decide_eq_true_iff.1 hfound).symm
  · rintro rfl
    exact ofTag?_tag c

end Category

theorem Settings.mem_warningCategories_iff (s : Settings) (c : Category) :
    c ∈ s.warningCategories ↔ c.tag ∈ s.warningTags := by
  unfold warningCategories
  rw [List.mem_filterMap]
  constructor
  · rintro ⟨tag, htag, hc⟩
    rwa [← (Category.ofTag?_eq_some_iff tag c).1 hc]
  · intro htag
    exact ⟨c.tag, htag, Category.ofTag?_tag c⟩

/-- There are no severities but two. -/
theorem Severity.eq_of_eq_warning_iff {s s' : Severity} (h : s = .warning ↔ s' = .warning) : s = s' := by
  cases s with
  | error =>
    cases s' with
    | error => rfl
    | warning => exact h.2 rfl
  | warning => exact (h.1 rfl).symm

namespace SeverityPolicy

/-! ## Changes -/

/-- A change of a policy: findings are demoted, or this is taken back. -/
structure Change where
  /-- The file whose findings are meant; none if all findings are. -/
  target : Option String
  demote : Bool
  deriving DecidableEq, Repr, Inhabited

/-- The policy after a change. -/
def change (p : SeverityPolicy) (m : Change) : SeverityPolicy :=
  match m.target with
  | none => p.setDemoteErrors m.demote
  | some uri => p.setUriDemoted uri m.demote

/-- The policy after some changes, one after the other. -/
def changeAll (p : SeverityPolicy) (ms : List Change) : SeverityPolicy := ms.foldl change p

/-- The changes about a target. -/
def changesAbout (target : Option String) (ms : List Change) : List Change :=
  ms.filter fun m => decide (m.target = target)

/-- What the last change about a target says. -/
def lastDemotion? (target : Option String) (ms : List Change) : Option Bool :=
  (changesAbout target ms).getLast?.map Change.demote

/-- Whether a target is demoted. -/
def isDemoted (p : SeverityPolicy) : Option String → Bool
  | none => p.demoteErrors
  | some uri => p.demotedUris.contains uri

theorem lastDemotion?_concat (target : Option String) (ms : List Change) (m : Change) :
    lastDemotion? target (ms ++ [m]) = if m.target = target then some m.demote else lastDemotion? target ms := by
  unfold lastDemotion? changesAbout
  rw [List.filter_append]
  by_cases htarget : m.target = target
  · simp [htarget]
  · simp [htarget]

/-! ## One change -/

section Change

variable (p : SeverityPolicy) (m : Change)

/-- A change sets its own target and leaves all others alone. -/
theorem isDemoted_change (target : Option String) :
    (p.change m).isDemoted target = if m.target = target then m.demote else p.isDemoted target := by
  obtain ⟨own, demote⟩ := m
  cases own with
  | none =>
    cases target with
    | none => rfl
    | some uri => rfl
  | some own =>
    cases target with
    | none => rfl
    | some uri =>
      unfold change setUriDemoted isDemoted
      cases demote with
      | true => by_cases huri : own = uri <;> simp [Std.ExtTreeSet.contains_insert, huri]
      | false => by_cases huri : own = uri <;> simp [Std.ExtTreeSet.contains_erase, huri]

theorem warningCategories_change : (p.change m).warningCategories = p.warningCategories := by
  unfold change
  split
  · rfl
  · rfl

end Change

/-! ## Some changes -/

section Changes

variable (p : SeverityPolicy) (ms : List Change)

/-- Of the changes about a target the last one counts, and if there is none, what was so before. -/
theorem isDemoted_changeAll (target : Option String) :
    (p.changeAll ms).isDemoted target = (lastDemotion? target ms).getD (p.isDemoted target) := by
  induction ms using List.reverseRecOn with
  | nil => rfl
  | append_singleton ms m ih =>
    have hlast : p.changeAll (ms ++ [m]) = (p.changeAll ms).change m := List.foldl_append
    rw [hlast, isDemoted_change, lastDemotion?_concat]
    split
    · rfl
    · exact ih

theorem warningCategories_changeAll : (p.changeAll ms).warningCategories = p.warningCategories := by
  induction ms generalizing p with
  | nil => rfl
  | cons m rest ih => exact (ih (p.change m)).trans (p.warningCategories_change m)

end Changes

/-! ## Severities -/

theorem severity_eq_warning_iff (p : SeverityPolicy) (uri : String) (c : Category) :
    p.severity uri c = .warning ↔
      c ∈ p.warningCategories ∨ p.isDemoted none = true ∨ p.isDemoted (some uri) = true := by
  have hcondition : (p.demoteErrors || p.demotedUris.contains uri || p.warningCategories.contains c) = true ↔
      c ∈ p.warningCategories ∨ p.isDemoted none = true ∨ p.isDemoted (some uri) = true := by
    rw [Bool.or_eq_true, Bool.or_eq_true, List.contains_iff_mem, or_comm]
    rfl
  rw [← hcondition]
  unfold severity
  split
  · next h => exact iff_of_true rfl h
  · next h => exact iff_of_false Severity.noConfusion h

/-- A finding is a warning just if its category is, or all findings were demoted last, or those of its file were.  The
changes about these two targets decide, so all other changes may be left out, added or moved. -/
theorem severity_changeAll (settings : Settings) (ms : List Change) (uri : String) (c : Category) :
    (((ofSettings settings).changeAll ms).severity uri c = .warning ↔
        c.tag ∈ settings.warningTags ∨ (lastDemotion? none ms).getD settings.demoteErrors = true ∨
          lastDemotion? (some uri) ms = some true) ∧
      ∀ others, changesAbout none others = changesAbout none ms →
        changesAbout (some uri) others = changesAbout (some uri) ms →
        ((ofSettings settings).changeAll others).severity uri c =
          ((ofSettings settings).changeAll ms).severity uri c := by
  have hwarning : ∀ changes, ((ofSettings settings).changeAll changes).severity uri c = .warning ↔
      c.tag ∈ settings.warningTags ∨ (lastDemotion? none changes).getD settings.demoteErrors = true ∨
        lastDemotion? (some uri) changes = some true := by
    intro changes
    have hnone : (ofSettings settings).isDemoted (some uri) = false := Std.ExtTreeSet.contains_empty
    have hown : (lastDemotion? (some uri) changes).getD false = true ↔
        lastDemotion? (some uri) changes = some true := by
      cases lastDemotion? (some uri) changes with
      | none => simp
      | some demote => simp
    rw [severity_eq_warning_iff, warningCategories_changeAll, isDemoted_changeAll, isDemoted_changeAll, hnone, hown]
    exact or_congr_left (settings.mem_warningCategories_iff c)
  refine ⟨hwarning ms, ?_⟩
  intro others hall hown
  apply Severity.eq_of_eq_warning_iff
  rw [hwarning, hwarning]
  unfold lastDemotion?
  rw [hall, hown]

/-- The findings of `a` stay demoted, whatever happens to those of `b` and to all of them in between. -/
theorem severity_changeAll_of_two_files :
    let ms : List Change := [⟨some "a", true⟩, ⟨none, true⟩, ⟨some "b", true⟩, ⟨none, false⟩, ⟨some "b", false⟩]
    let others : List Change := [⟨none, true⟩, ⟨none, false⟩, ⟨some "a", true⟩]
    let p := ofSettings { warningTags := ["no-implementation"] }
    changesAbout none others = changesAbout none ms ∧ changesAbout (some "a") others = changesAbout (some "a") ms ∧
      (p.changeAll ms).severity "a" .syntaxError = .warning ∧
      (p.changeAll others).severity "a" .syntaxError = (p.changeAll ms).severity "a" .syntaxError ∧
      (p.changeAll ms).severity "b" .syntaxError ≠ .warning := by
  intro ms others p
  have hall : changesAbout none others = changesAbout none ms := rfl
  have hown : changesAbout (some "a") others = changesAbout (some "a") ms := by decide
  have ha := severity_changeAll { warningTags := ["no-implementation"] } ms "a" .syntaxError
  have hb := severity_changeAll { warningTags := ["no-implementation"] } ms "b" .syntaxError
  refine ⟨hall, hown, ha.1.2 ?_, ha.2 others hall hown, mt hb.1.1 ?_⟩
  · decide
  · decide

end SeverityPolicy

end Traceability
