import Traceability.Proofs.Text.Fields
import Traceability.Proofs.Text.Offsets
import Traceability.Word
set_option autoImplicit false

/-!
# Runs of identifier characters under a cursor

Where no phrase is in the way, a cursor denotes the run of identifier characters around it, without the dots at both
ends.  It does not matter where the cursor cuts the run.
-/

namespace Traceability

open Text

/-- A run of identifier characters that no other such character touches. -/
structure IsRun (before run after : List Char) : Prop where
  isIdentifierChar_run : ∀ c ∈ run, isIdentifierChar c = true
  isIdentifierChar_before : ∀ c ∈ before.getLast?, isIdentifierChar c = false
  isIdentifierChar_after : ∀ c ∈ after.head?, isIdentifierChar c = false

/-- A run without dots at both ends, where it starts at the byte offset `start`. -/
def runWord? (start : Nat) (run : List Char) : Option Word :=
  match dropEndWhile (· == '.') (run.dropWhile (· == '.')) with
  | [] => none
  | word => some ⟨start + utf8Length (run.takeWhile (· == '.')), word⟩

theorem eq_of_runWord?_eq_some {start : Nat} {run : List Char} {w : Word} (h : runWord? start run = some w) :
    w = ⟨start + utf8Length (run.takeWhile (· == '.')), dropEndWhile (· == '.') (run.dropWhile (· == '.'))⟩ := by
  unfold runWord? at h
  split at h
  · cases h
  · exact (Option.some.inj h).symm

/-- Wherever a cursor cuts a run, it finds the same word. -/
theorem runAround?_append {before first second after : List Char} (h : IsRun before (first ++ second) after) :
    runAround? (before ++ first) (second ++ after) = runWord? (utf8Length before) (first ++ second) := by
  obtain ⟨hrun, hbefore, hafter⟩ := h
  have hhead : ((before ++ first).reverse.takeWhile isIdentifierChar).reverse = first := by
    have hfirst : ∀ c ∈ first.reverse, isIdentifierChar c = true := fun c hc =>
      hrun c (List.mem_append_left _ (List.mem_reverse.1 hc))
    rw [← List.head?_reverse] at hbefore
    rw [List.reverse_append, takeWhile_append_eq_left hfirst hbefore, List.reverse_reverse]
  have htail : (second ++ after).takeWhile isIdentifierChar = second :=
    takeWhile_append_eq_left (fun c hc => hrun c (List.mem_append_right _ hc)) hafter
  have hstart : utf8Length (before ++ first) - utf8Length first = utf8Length before := by
    rw [utf8Length_append, Nat.add_sub_cancel]
  unfold runAround? runWord?
  cases hword : dropEndWhile (· == '.') ((first ++ second).dropWhile (· == '.')) with
  | nil => simp only [hhead, htail, hword]
  | cons c rest => simp only [hhead, htail, hstart, hword]

/-! ## Runs without dots at their ends -/

theorem dropWhile_dot_eq_self_iff (run : List Char) : run.dropWhile (· == '.') = run ↔ run.head? ≠ some '.' := by
  cases run with
  | nil => simp
  | cons c rest =>
    rw [List.dropWhile_eq_self_iff, List.head?_cons]
    simp

theorem dropEndWhile_dot_eq_self_iff (run : List Char) :
    dropEndWhile (· == '.') run = run ↔ run.getLast? ≠ some '.' := by
  unfold dropEndWhile
  rw [List.reverse_eq_iff, dropWhile_dot_eq_self_iff, List.head?_reverse]

/-- Such a run is found as it is. -/
theorem runWord?_of_ne_dot {start : Nat} {run : List Char} (hne : run ≠ []) (hhead : run.head? ≠ some '.')
    (hlast : run.getLast? ≠ some '.') : runWord? start run = some ⟨start, run⟩ := by
  have hfront := (dropWhile_dot_eq_self_iff run).2 hhead
  have hback := (dropEndWhile_dot_eq_self_iff run).2 hlast
  have hdots : run.takeWhile (· == '.') = [] := by
    have hsplit := List.takeWhile_append_dropWhile (p := (· == '.')) (l := run)
    rw [hfront] at hsplit
    exact List.append_left_eq_self.1 hsplit
  unfold runWord?
  rw [hfront, hback, hdots]
  cases run with
  | nil => exact absurd rfl hne
  | cons c rest => rfl

end Traceability
