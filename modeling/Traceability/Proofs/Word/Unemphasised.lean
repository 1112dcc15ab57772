import Traceability.Proofs.Identifier
import Traceability.Proofs.Word.Phrases
import Traceability.Proofs.Word.Runs
set_option autoImplicit false

/-!
# Cursors on lines without emphasis

On a line without asterisks a cursor denotes the run of identifier characters around it, less the dots at both ends.  So
it finds each identifier that stands by itself, from its first character to the place right behind its last one.
-/

namespace Traceability

open Text

/-! ## Runs and the dots at their ends -/

/-- The run is a word between dots.  The word itself neither begins nor ends with a dot; it is empty if the run has
nothing but dots. -/
structure IsBetweenDots (run lead word trail : List Char) : Prop where
  run_eq : run = lead ++ word ++ trail
  eq_dot_of_mem_lead : ∀ c ∈ lead, c = '.'
  eq_dot_of_mem_trail : ∀ c ∈ trail, c = '.'
  head?_ne_dot : word.head? ≠ some '.'
  getLast?_ne_dot : word.getLast? ≠ some '.'

/-- A cursor that cuts a line is in one run, which may be empty. -/
theorem exists_isRun (before after : List Char) :
    ∃ front first second back, before = front ++ first ∧ after = second ++ back ∧
      IsRun front (first ++ second) back := by
  refine ⟨dropEndWhile isIdentifierChar before, (before.reverse.takeWhile isIdentifierChar).reverse,
    after.takeWhile isIdentifierChar, after.dropWhile isIdentifierChar, (dropEndWhile_append_eq _ _).symm,
    List.takeWhile_append_dropWhile.symm, ⟨fun c hc => ?_, getLast?_dropEndWhile _ _, fun c hc => ?_⟩⟩
  · rcases List.mem_append.1 hc with hfirst | hsecond
    · exact List.mem_takeWhile_imp (List.mem_reverse.1 hfirst)
    · exact List.mem_takeWhile_imp hsecond
  · have hstop := List.head?_dropWhile_not isIdentifierChar after
    rw [Option.mem_def.1 hc] at hstop
    simpa using hstop

theorem exists_isBetweenDots (start : Nat) (run : List Char) :
    ∃ lead word trail, IsBetweenDots run lead word trail ∧
      runWord? start run = if word = [] then none else some ⟨start + utf8Length lead, word⟩ := by
  let inner := run.dropWhile (· == '.')
  have hinner : dropEndWhile (· == '.') inner ++ (inner.reverse.takeWhile (· == '.')).reverse = inner :=
    dropEndWhile_append_eq _ _
  refine ⟨run.takeWhile (· == '.'), dropEndWhile (· == '.') inner, (inner.reverse.takeWhile (· == '.')).reverse,
    ⟨?_, fun c hc => ?_, fun c hc => ?_, fun hhead => ?_, fun hlast => ?_⟩, ?_⟩
  · rw [List.append_assoc, hinner, List.takeWhile_append_dropWhile]
  · simpa using List.mem_takeWhile_imp hc
  · simpa using List.mem_takeWhile_imp (List.mem_reverse.1 hc)
  · -- The word begins where the dots in front end.
    have hstop := List.head?_dropWhile_not (· == '.') run
    have hdot : inner.head? = some '.' := by rw [← hinner, List.head?_append, hhead, Option.some_or]
    rw [hdot] at hstop
    cases hstop
  · cases getLast?_dropEndWhile (· == '.') inner '.' hlast
  · unfold runWord?
    split
    · next hnone => rw [if_pos hnone]
    · next hword => rw [if_neg hword]

/-! ## Cursors -/

theorem phrasesOf_eq_nil {line : Line} (h : ∀ c ∈ line, c ≠ '*') : phrasesOf line = [] := by
  have hpassed := phrasesFrom_append h 0 []
  rw [List.append_nil] at hpassed
  unfold phrasesOf
  rw [hpassed, phrasesFrom]

/-- Without asterisks nothing is in the way of the run. -/
theorem wordAt_of_isRun {front first second back : List Char} (hrun : IsRun front (first ++ second) back)
    (h : ∀ c ∈ front ++ first ++ (second ++ back), c ≠ '*') :
    wordAt (front ++ first ++ (second ++ back)) (utf8Length (front ++ first)) =
      (runWord? (utf8Length front) (first ++ second)).elim .nothing .word := by
  rw [wordAt_eq, phrasesOf_eq_nil h, List.find?_nil, Option.bind_none, Option.none_or, runAround?_append hrun]

/-- A cursor on a line without asterisks is in a run of identifier characters that nothing makes longer, and denotes the
part of it between the dots at its ends, or nothing if no such part is left.  An identifier that no identifier character
touches is denoted from its start to its end. -/
theorem wordAt_without_asterisks :
    (∀ before after : List Char, (∀ c ∈ before ++ after, c ≠ '*') →
      ∃ front first second back lead word trail,
        before = front ++ first ∧ after = second ++ back ∧ IsRun front (first ++ second) back ∧
          IsBetweenDots (first ++ second) lead word trail ∧
          wordAt (before ++ after) (utf8Length before) =
            if word = [] then .nothing else .word ⟨utf8Length (front ++ lead), word⟩) ∧
      ∀ front first second back : List Char, isIdentifier (first ++ second) = true →
        (∀ c ∈ front.getLast?, isIdentifierChar c = false) → (∀ c ∈ back.head?, isIdentifierChar c = false) →
          (∀ c ∈ front, c ≠ '*') → (∀ c ∈ back, c ≠ '*') →
            wordAt (front ++ first ++ (second ++ back)) (utf8Length (front ++ first)) =
              .word ⟨utf8Length front, first ++ second⟩ := by
  constructor
  · intro before after hfree
    obtain ⟨front, first, second, back, rfl, rfl, hrun⟩ := exists_isRun before after
    obtain ⟨lead, word, trail, hdots, hword⟩ := exists_isBetweenDots (utf8Length front) (first ++ second)
    refine ⟨front, first, second, back, lead, word, trail, rfl, rfl, hrun, hdots, ?_⟩
    rw [wordAt_of_isRun hrun hfree, hword, utf8Length_append]
    split
    · rfl
    · rfl
  · intro front first second back hid hfront hback hfreeFront hfreeBack
    have hrun : IsRun front (first ++ second) back := ⟨fun c => isIdentifierChar_of_mem hid, hfront, hback⟩
    have hfree : ∀ c ∈ front ++ first ++ (second ++ back), c ≠ '*' := by
      intro c hc
      rw [List.append_assoc, ← List.append_assoc first] at hc
      rcases List.mem_append.1 hc with hc | hc
      · exact hfreeFront c hc
      · rcases List.mem_append.1 hc with hc | hc
        · exact ne_asterisk_of_isIdentifier hid c hc
        · exact hfreeBack c hc
    obtain ⟨hhead, hlast⟩ := ne_dot_of_isIdentifier hid
    rw [wordAt_of_isRun hrun hfree, runWord?_of_ne_dot (ne_nil_of_isIdentifier hid) hhead hlast]
    rfl

/-- A name that stands on its line twice is found where the cursor is, here right behind its last character. -/
theorem wordAt_behind_repeated_name :
    let front := ['Ж', '.', 'é', ' ', '(']
    let name := ['Ж', '.', 'é']
    isIdentifier name = true ∧
      wordAt (front ++ name ++ ([] ++ [')'])) (utf8Length (front ++ name)) = .word ⟨utf8Length front, name⟩ := by
  intro front name
  have hid : isIdentifier (name ++ []) = true := by decide +kernel
  have hopening : ∀ c ∈ front.getLast?, isIdentifierChar c = false := fun c hc => by
    obtain rfl := Option.some.inj hc
    decide
  have hclosing : ∀ c ∈ [')'].head?, isIdentifierChar c = false := fun c hc => by
    obtain rfl := Option.some.inj hc
    decide
  have hfront : ∀ c ∈ front, c ≠ '*' := by simp [front]
  have hback : ∀ c ∈ [')'], c ≠ '*' := by simp
  exact ⟨hid, wordAt_without_asterisks.2 front name [] [')'] hid hopening hclosing hfront hback⟩

end Traceability
