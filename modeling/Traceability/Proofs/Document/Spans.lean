import Traceability.Document.Span
set_option autoImplicit false

/-!
# Spans and the line they are read from

What is read from a line stands in it: a span with both of its markers, one span behind the other, and an opening marker
that nothing closes.  The other way round, text without asterisks and backslashes holds no span, and such text between
two markers is read as one, if it does not begin with a blank.
-/

namespace Traceability.Document

open Text

/-! ## Where spans stand -/

/-- In a text that begins at `place` on its line, a part of it stands at `start`. -/
def Stands (place : Nat) (text : List Char) (start : Nat) (part : List Char) : Prop :=
  ∃ before after, text = before ++ part ++ after ∧ start = place + before.length

namespace Stands

variable {place start : Nat} {text part : List Char}

theorem place_le (h : Stands place text start part) : place ≤ start := by
  obtain ⟨before, after, _, rfl⟩ := h
  omega

theorem append_left (front : List Char) (h : Stands (place + front.length) text start part) :
    Stands place (front ++ text) start part := by
  obtain ⟨before, after, rfl, rfl⟩ := h
  refine ⟨front ++ before, after, ?_, ?_⟩
  · simp only [List.append_assoc]
  · rw [List.length_append, Nat.add_assoc]

end Stands

theorem Span.start_le_stop (s : Span) : s.start ≤ s.stop := by
  rw [← s.length_source]
  exact Nat.le_add_right _ _

/-- The places of a span cut the line into what stands in front of it, its markers and its text, and what follows. -/
theorem Span.take_eq (s : Span) {line front back : List Char} (hline : line = front ++ s.source ++ back)
    (hstart : s.start = front.length) :
    line.take s.start = front ∧ line.take s.innerStart = front ++ s.kind.marker ∧
      line.take s.innerStop = front ++ s.kind.marker ++ s.text ∧ line.take s.stop = front ++ s.source := by
  have htake {before after : List Char} (hsplit : line = before ++ after) {place : Nat}
      (hplace : place = before.length) : line.take place = before := by
    rw [hsplit]
    exact List.take_left' hplace.symm
  have hinner : line = (front ++ s.kind.marker) ++ (s.text ++ s.kind.marker ++ back) := by
    rw [hline]
    simp only [Span.source, List.append_assoc]
  have houter : line = (front ++ s.kind.marker ++ s.text) ++ (s.kind.marker ++ back) := by
    rw [hline]
    simp only [Span.source, List.append_assoc]
  have hinnerStart : s.innerStart = (front ++ s.kind.marker).length := by
    rw [List.length_append, ← hstart]
    rfl
  have hinnerStop : s.innerStop = (front ++ s.kind.marker ++ s.text).length := by
    rw [List.length_append, ← hinnerStart]
    rfl
  have hstop : s.stop = (front ++ s.source).length := by
    rw [List.length_append, ← hstart, s.length_source]
  have hfront : line.take s.start = front := htake (hline.trans (List.append_assoc _ _ _)) hstart
  exact ⟨hfront, htake hinner hinnerStart, htake houter hinnerStop, htake hline hstop⟩

/-- A span that is closed takes its source off the text. -/
theorem eq_source_append {rest text after : List Char} (place : Nat)
    (h : breakOnUnescaped (Emphasis.opening rest).1.marker (Emphasis.opening rest).2 = some (text, after)) :
    '*' :: rest = (Span.mk (Emphasis.opening rest).1 place text).source ++ after := by
  rw [← Emphasis.marker_append_opening rest, breakOnUnescaped_eq_append h]
  simp only [Span.source, List.append_assoc]

/-- Each span stands in the text it is read from. -/
theorem stands_of_mem_spansFrom {place : Nat} {text : List Char} {s : Span} (h : s ∈ (spansFrom place text).spans) :
    Stands place text s.start s.source := by
  fun_induction spansFrom place text with
  | case1 => cases h
  | case2 => cases h
  | case3 place c rest ih => exact (ih h).append_left ['\\', c]
  | case4 place c rest _ _ _ ih => exact (ih h).append_left [c]
  | case5 => cases h
  | case6 place c rest _ _ hc kind inner _ _ text after hbreak _ span later ih =>
    obtain rfl : c = '*' := Decidable.of_not_not hc
    rw [eq_source_append place hbreak]
    rcases List.mem_cons.1 h with rfl | h
    · exact ⟨[], after, rfl, rfl⟩
    · have hlater := ih h
      rw [← span.length_source] at hlater
      exact hlater.append_left span.source
  | case7 place c rest _ _ hc kind inner _ _ ih =>
    obtain rfl : c = '*' := Decidable.of_not_not hc
    rw [← Emphasis.marker_append_opening rest]
    exact (ih h).append_left kind.marker

/-- The opening marker at which the reading stopped stands in the text. -/
theorem stands_of_unterminated {place start : Nat} {text : List Char} {kind : Emphasis}
    (h : (spansFrom place text).unterminated = some (kind, start)) : Stands place text start kind.marker := by
  fun_induction spansFrom place text with
  | case1 => cases h
  | case2 => cases h
  | case3 place c rest ih => exact (ih h).append_left ['\\', c]
  | case4 place c rest _ _ _ ih => exact (ih h).append_left [c]
  | case5 place c rest _ _ hc =>
    obtain rfl : c = '*' := Decidable.of_not_not hc
    obtain ⟨rfl, rfl⟩ := Prod.mk.inj (Option.some.inj h)
    exact ⟨[], _, (Emphasis.marker_append_opening rest).symm, rfl⟩
  | case6 place c rest _ _ hc kind inner _ _ text after hbreak _ span later ih =>
    obtain rfl : c = '*' := Decidable.of_not_not hc
    have hlater := ih h
    rw [← span.length_source] at hlater
    rw [eq_source_append place hbreak]
    exact hlater.append_left span.source
  | case7 place c rest _ _ hc kind inner _ _ ih =>
    obtain rfl : c = '*' := Decidable.of_not_not hc
    rw [← Emphasis.marker_append_opening rest]
    exact (ih h).append_left kind.marker

/-- The spans of a text stand one behind the other. -/
theorem pairwise_spansFrom (place : Nat) (text : List Char) :
    (spansFrom place text).spans.Pairwise fun s t => s.stop ≤ t.start := by
  fun_induction spansFrom place text with
  | case1 => exact List.Pairwise.nil
  | case2 => exact List.Pairwise.nil
  | case3 place c rest ih => exact ih
  | case4 place c rest _ _ _ ih => exact ih
  | case5 => exact List.Pairwise.nil
  | case6 place c rest _ _ hc kind inner _ _ text after hbreak _ span later ih =>
    exact List.pairwise_cons.2 ⟨fun t ht => (stands_of_mem_spansFrom ht).place_le, ih⟩
  | case7 place c rest _ _ hc kind inner _ _ ih => exact ih

/-- What stands between the markers of a span does not begin with a blank; it may be nothing at all. -/
theorem startsInked_of_mem_spansFrom {place : Nat} {line : List Char} {s : Span} (h : s ∈ (spansFrom place line).spans)
    (hne : s.text ≠ []) : startsInked s.text = true := by
  fun_induction spansFrom place line with
  | case1 => cases h
  | case2 => cases h
  | case3 place _ rest ih => exact ih h
  | case4 place c rest _ _ hc ih => exact ih h
  | case5 => cases h
  | case6 place c rest _ _ hc kind inner _ hinked text after hbreak _ span later ih =>
    rcases List.mem_cons.1 h with rfl | h
    · obtain ⟨d, others, htext⟩ := List.exists_cons_of_ne_nil hne
      change text = d :: others at htext
      rw [breakOnUnescaped_eq_append hbreak, htext] at hinked
      change startsInked text = true
      rw [htext]
      exact hinked
    · exact ih h
  | case7 place c rest _ _ hc kind inner _ hblank ih => exact ih h

/-! ## Text without marks -/

/-- The text has no asterisk and no backslash, so nothing in it opens, closes or protects a span. -/
def IsUnmarked (text : List Char) : Prop := ∀ c ∈ text, c ≠ '*' ∧ c ≠ '\\'

instance (text : List Char) : Decidable (IsUnmarked text) :=
  List.decidableBAll (fun c => c ≠ '*' ∧ c ≠ '\\') text

theorem IsUnmarked.append {s t : List Char} (hs : IsUnmarked s) (ht : IsUnmarked t) : IsUnmarked (s ++ t) := by
  intro c hc
  rcases List.mem_append.1 hc with hc | hc
  · exact hs c hc
  · exact ht c hc

theorem spansFrom_cons_of_ne {place : Nat} {c : Char} {rest : List Char} (hasterisk : c ≠ '*') (hbackslash : c ≠ '\\') :
    spansFrom place (c :: rest) = spansFrom (place + 1) rest := by
  rw [spansFrom]
  · rw [if_pos hasterisk]
  · exact fun h => absurd h hbackslash
  · exact fun _ _ h => absurd h hbackslash

/-- Unmarked text is passed over. -/
theorem spansFrom_append {front : List Char} (h : IsUnmarked front) (place : Nat) (rest : List Char) :
    spansFrom place (front ++ rest) = spansFrom (place + front.length) rest := by
  induction front generalizing place with
  | nil => rfl
  | cons c others ih =>
    obtain ⟨⟨hasterisk, hbackslash⟩, hothers⟩ := List.forall_mem_cons.1 h
    rw [List.cons_append, spansFrom_cons_of_ne hasterisk hbackslash, ih hothers, List.length_cons]
    congr 1
    omega

theorem spansFrom_of_isUnmarked {text : List Char} (h : IsUnmarked text) (place : Nat) :
    spansFrom place text = ⟨[], none⟩ := by
  have hpassed := spansFrom_append h place []
  rw [List.append_nil] at hpassed
  rw [hpassed, spansFrom]

/-- A marker begins with nothing but an asterisk. -/
theorem isPrefixOf_marker_of_ne (kind : Emphasis) {c : Char} (hc : c ≠ '*') (rest : List Char) :
    kind.marker.isPrefixOf (c :: rest) = false := by
  cases kind with
  | italic => simp [Emphasis.marker, List.isPrefixOf, Ne.symm hc]
  | bold => simp [Emphasis.marker, List.isPrefixOf, Ne.symm hc]

theorem breakOnUnescaped_cons_of_ne {mark rest : List Char} {c : Char} (hc : c ≠ '\\') :
    breakOnUnescaped mark (c :: rest) =
      if mark.isPrefixOf (c :: rest) then some ([], (c :: rest).drop mark.length)
      else (breakOnUnescaped mark rest).map fun (before, after) => (c :: before, after) := by
  rw [breakOnUnescaped]
  · exact fun h => absurd h hc
  · exact fun _ _ h => absurd h hc

theorem breakOnUnescaped_marker (kind : Emphasis) (rest : List Char) :
    breakOnUnescaped kind.marker (kind.marker ++ rest) = some ([], rest) := by
  cases kind with
  | italic => rfl
  | bold => rfl

/-- The first marker behind unmarked text closes it. -/
theorem breakOnUnescaped_append {text : List Char} (h : IsUnmarked text) (kind : Emphasis) (rest : List Char) :
    breakOnUnescaped kind.marker (text ++ kind.marker ++ rest) = some (text, rest) := by
  induction text with
  | nil => exact breakOnUnescaped_marker kind rest
  | cons c others ih =>
    obtain ⟨⟨hasterisk, hbackslash⟩, hothers⟩ := List.forall_mem_cons.1 h
    rw [List.cons_append, List.cons_append, breakOnUnescaped_cons_of_ne hbackslash,
      isPrefixOf_marker_of_ne kind hasterisk, ih hothers]
    rfl

/-- A marker that is closed makes a span. -/
theorem spansFrom_asterisk {rest text after : List Char} (hinked : startsInked (Emphasis.opening rest).2 = true)
    (hbreak : breakOnUnescaped (Emphasis.opening rest).1.marker (Emphasis.opening rest).2 = some (text, after))
    (place : Nat) :
    let span : Span := ⟨(Emphasis.opening rest).1, place, text⟩
    spansFrom place ('*' :: rest) =
      ⟨span :: (spansFrom span.stop after).spans, (spansFrom span.stop after).unterminated⟩ := by
  rw [spansFrom]
  · rw [if_neg (not_not_intro rfl)]
    simp only [hinked, if_true]
    split
    · next hnone =>
      rw [hbreak] at hnone
      cases hnone
    · next text' after' hsome =>
      obtain ⟨rfl, rfl⟩ := Prod.mk.inj (Option.some.inj (hbreak.symm.trans hsome))
      rfl
  · exact fun h => absurd h (by decide)
  · exact fun _ _ h => absurd h (by decide)

theorem opening_cons_of_ne {c : Char} (hc : c ≠ '*') (rest : List Char) :
    Emphasis.opening (c :: rest) = (.italic, c :: rest) := by
  unfold Emphasis.opening
  split
  · next h => exact absurd (List.cons.inj h).1 hc
  · rfl

/-- A marker in front of something other than an asterisk is read as what it is. -/
theorem exists_opening_eq (kind : Emphasis) {c : Char} (hc : c ≠ '*') (rest : List Char) :
    ∃ later, kind.marker ++ c :: rest = '*' :: later ∧ Emphasis.opening later = (kind, c :: rest) := by
  cases kind with
  | bold => exact ⟨'*' :: c :: rest, rfl, rfl⟩
  | italic => exact ⟨c :: rest, rfl, opening_cons_of_ne hc rest⟩

/-- A text between two markers, the second of which closes it, is read as one span, if it begins with neither a blank
nor an asterisk. -/
theorem spansFrom_source_append_of_breakOnUnescaped {kind : Emphasis} {text rest : List Char}
    (hinked : startsInked text = true) (hfirst : text.head? ≠ some '*')
    (hbreak : breakOnUnescaped kind.marker (text ++ kind.marker ++ rest) = some (text, rest)) (place : Nat) :
    let span : Span := ⟨kind, place, text⟩
    spansFrom place (span.source ++ rest) =
      ⟨span :: (spansFrom span.stop rest).spans, (spansFrom span.stop rest).unterminated⟩ := by
  intro span
  cases text with
  | nil => cases hinked
  | cons c others =>
    have hc : c ≠ '*' := fun h => hfirst (congrArg some h)
    obtain ⟨later, hmarker, hopening⟩ := exists_opening_eq kind hc (others ++ kind.marker ++ rest)
    have hsource : span.source ++ rest = '*' :: later := by
      rw [← hmarker]
      simp only [Span.source, span, List.append_assoc, List.cons_append]
    have hspan : breakOnUnescaped (Emphasis.opening later).1.marker (Emphasis.opening later).2 =
        some (c :: others, rest) := by
      rw [hopening]
      exact hbreak
    rw [hsource, spansFrom_asterisk (by rw [hopening]; exact hinked) hspan, hopening]

/-- Unmarked text between two markers is read as one span, if it does not begin with a blank. -/
theorem spansFrom_source_append {kind : Emphasis} {text : List Char} (hunmarked : IsUnmarked text)
    (hinked : startsInked text = true) (place : Nat) (rest : List Char) :
    let span : Span := ⟨kind, place, text⟩
    spansFrom place (span.source ++ rest) =
      ⟨span :: (spansFrom span.stop rest).spans, (spansFrom span.stop rest).unterminated⟩ := by
  have hfirst : text.head? ≠ some '*' := fun h => (hunmarked '*' (List.mem_of_head? h)).1 rfl
  exact spansFrom_source_append_of_breakOnUnescaped hinked hfirst (breakOnUnescaped_append hunmarked kind rest) place

end Traceability.Document
