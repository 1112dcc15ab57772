import Mathlib.Data.List.Chain
import Traceability.Proofs.Text.Fields
set_option autoImplicit false

/-!
# Spacing

Collapsing the blanks of a text, or dropping those at its ends, leaves the text as it is just if there was nothing to
collapse or to drop.
-/

namespace Traceability.Text

/-! ## Blanks at the ends -/

theorem startsInked_iff {s : List Char} : startsInked s = true ↔ ∃ c rest, s = c :: rest ∧ isBlank c = false := by
  cases s with
  | nil => simp [startsInked]
  | cons c rest => simp [startsInked]

theorem ne_nil_of_startsInked {s : List Char} (h : startsInked s = true) : s ≠ [] := by
  rintro rfl
  cases h

theorem trim_of_startsInked {s : List Char} (h : startsInked s = true) :
    trim s = dropEndWhile isBlank s ∧ startsInked (trim s) = true := by
  obtain ⟨c, rest, rfl, hc⟩ := startsInked_iff.1 h
  have hstart : trimStart (c :: rest) = c :: rest := List.dropWhile_cons_of_neg (by simp [hc])
  have hend : trimEnd (c :: rest) = c :: dropEndWhile isBlank rest := dropEndWhile_append_cons hc [] rest
  unfold trim
  rw [hstart]
  exact ⟨rfl, hend ▸ startsInked_iff.2 ⟨c, _, rfl, hc⟩⟩

/-- Of a text that begins with no blank, trimming leaves all if it does not end with one either. -/
theorem trim_eq_self_iff {s : List Char} (h : startsInked s = true) :
    trim s = s ↔ ∀ c ∈ s.getLast?, isBlank c = false := by
  refine ⟨fun heq => heq ▸ isBlank_getLast?_trim s, fun hlast => ?_⟩
  rw [(trim_of_startsInked h).1]
  obtain ⟨front, c, rfl⟩ : ∃ front c, s = front ++ [c] :=
    ⟨s.dropLast, s.getLast (ne_nil_of_startsInked h), (List.dropLast_append_getLast _).symm⟩
  exact dropEndWhile_append_cons (hlast c List.getLast?_concat) front []

/-! ## Blanks between words -/

/-- The blanks of the text are spaces, no two of them are neighbours, and the text does not end with one. -/
structure IsSingleSpaced (s : List Char) : Prop where
  eq_space : ∀ c ∈ s, isBlank c = true → c = ' '
  isChain : s.IsChain fun c d => isBlank c = true → isBlank d = false
  isBlank_getLast? : ∀ c ∈ s.getLast?, isBlank c = false

namespace IsSingleSpaced

theorem of_inked {s : List Char} (h : ∀ c ∈ s, isBlank c = false) : IsSingleSpaced s := by
  refine ⟨fun c hc hblank => ?_, ?_, fun c hc => h c (List.mem_of_getLast? hc)⟩
  · rw [h c hc] at hblank
    cases hblank
  · have hall : s.Pairwise fun c d => isBlank c = true → isBlank d = false :=
      List.pairwise_of_forall_mem_list fun _ _ d hd _ => h d hd
    exact hall.isChain

theorem append_space {s t : List Char} (hs : ∀ c ∈ s, isBlank c = false) (ht : IsSingleSpaced t)
    (hinked : startsInked t = true) : IsSingleSpaced (s ++ ' ' :: t) := by
  obtain ⟨d, rest, rfl, hd⟩ := startsInked_iff.1 hinked
  refine ⟨fun c hc hblank => ?_, ?_, fun c hc => ?_⟩
  · rcases List.mem_append.1 hc with hc | hc
    · exact (of_inked hs).eq_space c hc hblank
    · rcases List.mem_cons.1 hc with rfl | hc
      · rfl
      · exact ht.eq_space c hc hblank
  · refine List.isChain_append.2 ⟨(of_inked hs).isChain, List.isChain_cons_cons.2 ⟨fun _ => hd, ht.isChain⟩, ?_⟩
    intro c hc _ _ hblank
    rw [hs c (List.mem_of_getLast? hc)] at hblank
    cases hblank
  · refine ht.isBlank_getLast? c ?_
    rwa [List.getLast?_append, List.getLast?_cons_cons] at hc

end IsSingleSpaced

/-- Words with one space between two of them begin and end with no blank. -/
theorem isSingleSpaced_intercalate {ws : List (List Char)} (h : ∀ w ∈ ws, w ≠ [] ∧ ∀ c ∈ w, isBlank c = false) :
    IsSingleSpaced ([' '].intercalate ws) ∧ (ws ≠ [] → startsInked ([' '].intercalate ws) = true) := by
  induction ws with
  | nil => exact ⟨.of_inked fun c hc => absurd hc List.not_mem_nil, fun hne => absurd rfl hne⟩
  | cons w others ih =>
    obtain ⟨⟨hne, hinked⟩, hothers⟩ := List.forall_mem_cons.1 h
    obtain ⟨c, rest, rfl⟩ := List.exists_cons_of_ne_nil hne
    have hc := hinked c List.mem_cons_self
    cases others with
    | nil =>
      rw [List.intercalate_singleton]
      exact ⟨.of_inked hinked, fun _ => startsInked_iff.2 ⟨c, rest, rfl, hc⟩⟩
    | cons v more =>
      obtain ⟨hspaced, hstarts⟩ := ih hothers
      rw [List.intercalate_cons_cons, List.append_assoc]
      exact ⟨.append_space hinked hspaced (hstarts (List.cons_ne_nil v more)),
        fun _ => startsInked_iff.2 ⟨c, _, rfl, hc⟩⟩

theorem isSingleSpaced_collapse (s : List Char) : IsSingleSpaced (collapse s) :=
  (isSingleSpaced_intercalate fun _ h => of_mem_words h).1

/-- The first word of a single-spaced text, and what stands behind the space that follows it. -/
theorem IsSingleSpaced.exists_first_word {s : List Char} (h : IsSingleSpaced s) (hinked : startsInked s = true) :
    ∃ w, w ≠ [] ∧ (∀ c ∈ w, isBlank c = false) ∧
      (s = w ∨ ∃ t, s = w ++ ' ' :: t ∧ IsSingleSpaced t ∧ startsInked t = true) := by
  have hword : ∀ c ∈ s.takeWhile fun c => !isBlank c, isBlank c = false := by
    intro c hc
    simpa using List.mem_takeWhile_imp hc
  refine ⟨s.takeWhile fun c => !isBlank c, ?_, hword, ?_⟩
  · obtain ⟨c, rest, rfl, hc⟩ := startsInked_iff.1 hinked
    rw [List.takeWhile_cons_of_pos (by simp [hc])]
    exact List.cons_ne_nil _ _
  · have hsplit := List.takeWhile_append_dropWhile (p := fun c => !isBlank c) (l := s)
    have hstop := List.head?_dropWhile_not (fun c => !isBlank c) s
    generalize s.takeWhile (fun c => !isBlank c) = w at hsplit hword
    cases hrest : s.dropWhile fun c => !isBlank c with
    | nil => exact .inl (by rw [← hsplit, hrest, List.append_nil])
    | cons b t =>
      rw [hrest] at hsplit hstop
      have hb : isBlank b = true := by simpa using hstop
      subst hsplit
      obtain rfl : b = ' ' := h.eq_space b (List.mem_append_right _ List.mem_cons_self) hb
      obtain ⟨_, hchain, _⟩ := List.isChain_append.1 h.isChain
      -- The text does not end with this space.
      obtain ⟨d, rest, rfl⟩ : ∃ d rest, t = d :: rest := by
        refine List.exists_cons_of_ne_nil fun hnone => ?_
        have hlast := h.isBlank_getLast? ' ' (by rw [hnone, List.getLast?_append]; rfl)
        cases hlast
      obtain ⟨hd, hlater⟩ := List.isChain_cons_cons.1 hchain
      refine .inr ⟨d :: rest, rfl, ⟨fun c hc => ?_, hlater, fun c hc => ?_⟩, startsInked_iff.2 ⟨d, rest, rfl, hd hb⟩⟩
      · exact h.eq_space c (List.mem_append_right _ (List.mem_cons_of_mem _ hc))
      · refine h.isBlank_getLast? c ?_
        rw [List.getLast?_append, List.getLast?_cons_cons, hc]
        rfl

/-- Of a text that begins with no blank, collapsing leaves all just if the text is single-spaced. -/
theorem collapse_eq_self_iff {s : List Char} (h : startsInked s = true) : collapse s = s ↔ IsSingleSpaced s := by
  refine ⟨fun heq => heq ▸ isSingleSpaced_collapse s, fun hspaced => ?_⟩
  -- The induction is on the number of characters behind the first word.
  induction hlength : s.length using Nat.strong_induction_on generalizing s with
  | _ n ih =>
    obtain ⟨w, hne, hinked, rfl | ⟨t, rfl, ht, hstarts⟩⟩ := hspaced.exists_first_word h
    · rw [collapse, words_of_inked hne hinked, List.intercalate_singleton]
    · have hlater := ih t.length (by rw [← hlength, List.length_append, List.length_cons]; omega) hstarts ht rfl
      have hspace : isBlank ' ' = true := by decide
      obtain ⟨v, others, hv⟩ : ∃ v others, words t = v :: others := by
        obtain ⟨c, rest, rfl, hc⟩ := startsInked_iff.1 hstarts
        exact List.exists_cons_of_ne_nil (words_ne_nil List.mem_cons_self hc)
      unfold collapse at hlater ⊢
      rw [words_append_blank hspace, words_of_inked hne hinked, List.singleton_append, hv, List.intercalate_cons_cons,
        ← hv, hlater, List.append_assoc, List.singleton_append]

theorem collapse_eq_trim_iff {s : List Char} (h : startsInked s = true) :
    collapse s = trim s ↔ IsSingleSpaced (trim s) := by
  have hwords : collapse (trim s) = collapse s := congrArg [' '].intercalate (cutsAtBlanks_words.trim s)
  rw [← hwords, collapse_eq_self_iff (trim_of_startsInked h).2]

end Traceability.Text
