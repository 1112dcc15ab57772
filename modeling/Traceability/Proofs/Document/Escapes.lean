import Traceability.Proofs.Document.Ranges
import Traceability.Proofs.Text.Offsets
set_option autoImplicit false

/-!
# Escapes and the spans of a line

Which spans a line has can be told without reading it from left to right.  A backslash takes the next character out of
consideration, unless it is taken out itself; all other characters count.  A marker that counts and that no blank
follows opens a span, and the first marker of its kind that counts closes it.  Asterisks between the spans are literal,
and the reading stops only at a marker that nothing closes.
-/

namespace Traceability.Document

open Text

/-! ## Characters that count -/

/-- Whether the text ends in a backslash that takes the next character out of consideration.  A backslash that is taken
out itself does not. -/
def protectsNext (text : List Char) : Bool := text.foldl (fun isTakenOut c => !isTakenOut && c == '\\') false

theorem protectsNext_append {front : List Char} (h : protectsNext front = false) (text : List Char) :
    protectsNext (front ++ text) = protectsNext text := by
  unfold protectsNext at h ⊢
  rw [List.foldl_append, h]

theorem protectsNext_concat (text : List Char) {c : Char} (hc : c ≠ '\\') : protectsNext (text ++ [c]) = false := by
  unfold protectsNext
  rw [List.foldl_append]
  simp [hc]

theorem protectsNext_escape (c : Char) : protectsNext ['\\', c] = false := by
  simp [protectsNext]

theorem exists_marker_eq_cons (kind : Emphasis) : ∃ back, kind.marker = '*' :: back := by
  cases kind with
  | italic => exact ⟨[], rfl⟩
  | bold => exact ⟨['*'], rfl⟩

theorem protectsNext_marker (text : List Char) (kind : Emphasis) : protectsNext (text ++ kind.marker) = false := by
  obtain ⟨front, hfront⟩ := exists_marker_eq_concat kind
  rw [hfront, ← List.append_assoc]
  exact protectsNext_concat _ (by decide)

theorem protectsNext_source (s : Span) : protectsNext s.source = false := protectsNext_marker _ s.kind

/-- In a text that begins at `place`, `rest` is what stands from `start` on, and its first character counts. -/
def CountsAt (place : Nat) (text : List Char) (start : Nat) (rest : List Char) : Prop :=
  ∃ before, text = before ++ rest ∧ start = place + before.length ∧ protectsNext before = false

namespace CountsAt

variable {place start : Nat} {text rest : List Char}

theorem refl (place : Nat) (text : List Char) : CountsAt place text place text := ⟨[], rfl, rfl, rfl⟩

theorem place_le (h : CountsAt place text start rest) : place ≤ start := by
  obtain ⟨before, _, rfl, _⟩ := h
  omega

theorem drop_eq (h : CountsAt place text start rest) : text.drop (start - place) = rest := by
  obtain ⟨before, rfl, rfl, _⟩ := h
  rw [Nat.add_sub_cancel_left, List.drop_left]

theorem append_left (front : List Char) (hfront : protectsNext front = false)
    (h : CountsAt (place + front.length) text start rest) : CountsAt place (front ++ text) start rest := by
  obtain ⟨before, rfl, rfl, hbefore⟩ := h
  refine ⟨front ++ before, ?_, ?_, ?_⟩
  · rw [List.append_assoc]
  · rw [List.length_append, Nat.add_assoc]
  · rw [protectsNext_append hfront, hbefore]

/-- What stands behind the front of a text does not depend on that front. -/
theorem of_append (front : List Char) (hfront : protectsNext front = false)
    (h : CountsAt place (front ++ text) start rest) (hle : place + front.length ≤ start) :
    CountsAt (place + front.length) text start rest := by
  obtain ⟨before, htext, rfl, hbefore⟩ := h
  obtain ⟨more, rfl⟩ : front <+: before := by
    refine List.prefix_of_prefix_length_le (List.prefix_append front text) ?_ (by omega)
    rw [htext]
    exact List.prefix_append before rest
  rw [List.append_assoc, List.append_cancel_left_eq] at htext
  refine ⟨more, htext, ?_, ?_⟩
  · rw [List.length_append, Nat.add_assoc]
  · rwa [protectsNext_append hfront] at hbefore

/-- A place in the front of a text. -/
theorem exists_of_lt (front : List Char) (h : CountsAt place (front ++ text) start rest)
    (hlt : start < place + front.length) :
    ∃ before c more, front = before ++ c :: more ∧ rest = c :: (more ++ text) ∧ start = place + before.length ∧
      protectsNext before = false := by
  obtain ⟨before, htext, rfl, hbefore⟩ := h
  obtain ⟨more, rfl⟩ : before <+: front := by
    refine List.prefix_of_prefix_length_le ?_ (List.prefix_append front text) (by omega)
    rw [htext]
    exact List.prefix_append before rest
  rw [List.append_assoc, List.append_cancel_left_eq] at htext
  cases more with
  | nil =>
    rw [List.append_nil] at hlt
    omega
  | cons c more => exact ⟨before, c, more, rfl, htext.symm, rfl, hbefore⟩

theorem append_right (h : CountsAt place text start rest) (back : List Char) :
    CountsAt place (text ++ back) start (rest ++ back) := by
  obtain ⟨before, rfl, hstart, hbefore⟩ := h
  exact ⟨before, List.append_assoc _ _ _, hstart, hbefore⟩

/-! No marker that counts begins in an escape, nor at the backslash itself. -/

theorem marker_of_escape (kind : Emphasis) {c : Char}
    (h : CountsAt place ('\\' :: c :: text) start (kind.marker ++ rest)) :
    CountsAt (place + 2) text start (kind.marker ++ rest) := by
  obtain ⟨back, hmarker⟩ := exists_marker_eq_cons kind
  rcases Nat.lt_or_ge start (place + 2) with hlt | hge
  · obtain ⟨before, d, more, hfront, hrest, _, hbefore⟩ := exists_of_lt ['\\', c] h hlt
    rw [hmarker] at hrest
    obtain rfl := (List.cons.inj hrest).1
    cases before with
    | nil => cases (List.cons.inj hfront).1
    | cons e others =>
      obtain ⟨rfl, hothers⟩ := List.cons.inj hfront
      cases others with
      | nil => cases hbefore
      | cons f others => simp at hothers
  · exact of_append ['\\', c] (protectsNext_escape c) h hge

theorem not_marker_of_nil (kind : Emphasis) : ¬ CountsAt place [] start (kind.marker ++ rest) := by
  obtain ⟨back, hmarker⟩ := exists_marker_eq_cons kind
  rintro ⟨before, htext, _, _⟩
  simp [hmarker] at htext

theorem not_marker_of_backslash (kind : Emphasis) : ¬ CountsAt place ['\\'] start (kind.marker ++ rest) := by
  obtain ⟨back, hmarker⟩ := exists_marker_eq_cons kind
  rintro ⟨before, htext, _, _⟩
  rw [hmarker] at htext
  cases before with
  | nil => cases (List.cons.inj htext).1
  | cons d others => simp at htext

theorem cons_cases {c : Char} (hc : c ≠ '\\') (h : CountsAt place (c :: text) start rest) :
    start = place ∧ rest = c :: text ∨ CountsAt (place + 1) text start rest := by
  rcases Nat.lt_or_ge start (place + 1) with hlt | hge
  · have hplace := h.place_le
    obtain rfl : start = place := by omega
    have hdrop := h.drop_eq
    rw [Nat.sub_self, List.drop_zero] at hdrop
    exact .inl ⟨rfl, hdrop.symm⟩
  · exact .inr (of_append [c] (protectsNext_concat [] hc) h hge)

end CountsAt

/-! ## Openers, spans and literal asterisks -/

/-- A marker at the place `start` opens a span: it counts, no blank follows it, and it is not the first half of a longer
marker. -/
structure IsOpener (place : Nat) (text : List Char) (start : Nat) (kind : Emphasis) (inner : List Char) : Prop where
  countsAt : CountsAt place text start (kind.marker ++ inner)
  startsInked_inner : startsInked inner = true
  isLongest : kind = .italic → inner.head? ≠ some '*'

/-- A marker directly behind the text counts, and none counts before that. -/
structure IsClosedBy (mark text : List Char) : Prop where
  countsAt : CountsAt 0 (text ++ mark) text.length mark
  isFirst : ∀ p after, CountsAt 0 (text ++ mark) p (mark ++ after) → p = text.length

/-- No marker in the text counts. -/
def IsNeverClosed (mark text : List Char) : Prop := ∀ p after, ¬ CountsAt 0 text p (mark ++ after)

/-- The span is opened, and it ends at the first marker that closes it. -/
structure IsSpan (place : Nat) (text : List Char) (s : Span) : Prop where
  isOpener : ∃ after, IsOpener place text s.start s.kind (s.text ++ s.kind.marker ++ after)
  isClosedBy : IsClosedBy s.kind.marker s.text

/-- The character at `p` belongs to a marker that counts and that a blank or the end of the line follows. -/
def IsLiteral (place : Nat) (text : List Char) (p : Nat) : Prop :=
  ∃ (start : Nat) (kind : Emphasis) (after : List Char),
    CountsAt place text start (kind.marker ++ after) ∧ startsInked after = false ∧ start ≤ p ∧ p < start + kind.width

section Front

variable {place start : Nat} (front : List Char) {text : List Char} (hfront : protectsNext front = false)

include hfront

theorem IsOpener.append_left {kind : Emphasis} {inner : List Char}
    (h : IsOpener (place + front.length) text start kind inner) : IsOpener place (front ++ text) start kind inner :=
  ⟨h.countsAt.append_left front hfront, h.startsInked_inner, h.isLongest⟩

theorem IsSpan.append_left {s : Span} (h : IsSpan (place + front.length) text s) : IsSpan place (front ++ text) s :=
  ⟨h.isOpener.imp fun _ hopener => hopener.append_left front hfront, h.isClosedBy⟩

theorem IsLiteral.append_left {p : Nat} (h : IsLiteral (place + front.length) text p) :
    IsLiteral place (front ++ text) p := by
  obtain ⟨start, kind, after, hcounts, hrest⟩ := h
  exact ⟨start, kind, after, hcounts.append_left front hfront, hrest⟩

end Front

/-- The marker that begins with an asterisk and the text behind it. -/
theorem isOpener_opening (place : Nat) {rest : List Char} (hinked : startsInked (Emphasis.opening rest).2 = true) :
    IsOpener place ('*' :: rest) place (Emphasis.opening rest).1 (Emphasis.opening rest).2 := by
  refine ⟨?_, hinked, ?_⟩
  · rw [Emphasis.marker_append_opening]
    exact CountsAt.refl place _
  · unfold Emphasis.opening
    split
    · intro h
      cases h
    · next hnone =>
      rintro - h
      obtain ⟨inner, rfl⟩ := List.head?_eq_some_iff.1 h
      exact hnone inner rfl

/-- A blank behind an asterisk makes it literal, unless it is the first half of a longer marker. -/
theorem not_isOpener_of_marker_append_eq {kind : Emphasis} {inner after : List Char} (hinked : startsInked inner = true)
    (hafter : startsInked after = false) : kind.marker ++ inner ≠ '*' :: after := by
  intro h
  cases kind with
  | italic =>
    have hinner : inner = after := (List.cons.inj h).2
    rw [hinner, hafter] at hinked
    cases hinked
  | bold =>
    have hmore : '*' :: inner = after := (List.cons.inj h).2
    rw [← hmore] at hafter
    cases hafter

/-- An opener is no literal asterisk. -/
theorem IsOpener.not_isLiteral {place start : Nat} {text inner : List Char} {kind : Emphasis}
    (h : IsOpener place text start kind inner) : ¬ IsLiteral place text start := by
  rintro ⟨start', kind', after, hcounts, hafter, hle, hlt⟩
  have hplace := hcounts.place_le
  have hmarker : kind.marker ++ inner = (kind'.marker ++ after).drop (start - start') := by
    rw [← h.countsAt.drop_eq, ← hcounts.drop_eq, List.drop_drop]
    congr 1
    omega
  -- It would be the literal marker itself, or its second asterisk.
  cases kind' with
  | italic =>
    obtain rfl : start = start' := by
      have hwidth : Emphasis.italic.width = 1 := rfl
      omega
    rw [Nat.sub_self] at hmarker
    exact not_isOpener_of_marker_append_eq h.startsInked_inner hafter hmarker
  | bold =>
    have hwidth : Emphasis.bold.width = 2 := rfl
    obtain rfl | rfl : start = start' ∨ start = start' + 1 := by omega
    · rw [Nat.sub_self] at hmarker
      cases kind with
      | italic =>
        have hinner : inner = '*' :: after := (List.cons.inj hmarker).2
        exact h.isLongest rfl (by rw [hinner]; rfl)
      | bold =>
        have hinner : inner = after := (List.cons.inj (List.cons.inj hmarker).2).2
        have hinked := h.startsInked_inner
        rw [hinner, hafter] at hinked
        cases hinked
    · rw [Nat.add_sub_cancel_left] at hmarker
      exact not_isOpener_of_marker_append_eq h.startsInked_inner hafter hmarker

/-! ## Closing markers -/

/-- What is neither a lone backslash nor an escape begins with no backslash. -/
theorem ne_backslash {c : Char} {rest : List Char} (hlone : c = '\\' → rest = [] → False)
    (hescape : ∀ d more, c = '\\' → rest = d :: more → False) : c ≠ '\\' := by
  intro h
  cases rest with
  | nil => exact hlone h rfl
  | cons d more => exact hescape d more h rfl

/-- The search finds the first closing marker that counts. -/
theorem of_breakOnUnescaped_eq_some {kind : Emphasis} {s text after : List Char}
    (h : breakOnUnescaped kind.marker s = some (text, after)) (place : Nat) :
    CountsAt place s (place + text.length) (kind.marker ++ after) ∧
      ∀ p more, CountsAt place s p (kind.marker ++ more) → place + text.length ≤ p := by
  fun_induction breakOnUnescaped kind.marker s generalizing text place with
  | case1 => cases h
  | case2 => cases h
  | case3 c rest ih =>
    obtain ⟨⟨text, after⟩, hrest, heq⟩ := Option.map_eq_some_iff.1 h
    obtain ⟨rfl, rfl⟩ := Prod.mk.inj heq
    obtain ⟨hcounts, hfirst⟩ := ih hrest (place + 2)
    have hlength : place + ('\\' :: c :: text).length = place + 2 + text.length := by
      rw [List.length_cons, List.length_cons]
      omega
    rw [hlength]
    refine ⟨hcounts.append_left ['\\', c] (protectsNext_escape c), fun p more hp => ?_⟩
    exact hfirst p more (hp.marker_of_escape kind)
  | case4 c rest _ _ hprefix =>
    obtain ⟨rfl, rfl⟩ := Prod.mk.inj (Option.some.inj h)
    obtain ⟨tail, htail⟩ := List.isPrefixOf_iff_prefix.1 hprefix
    rw [← htail, List.drop_left]
    exact ⟨CountsAt.refl place _, fun p more hp => hp.place_le⟩
  | case5 c rest hlone hescape hprefix ih =>
    obtain ⟨⟨text, after⟩, hrest, heq⟩ := Option.map_eq_some_iff.1 h
    obtain ⟨rfl, rfl⟩ := Prod.mk.inj heq
    obtain ⟨hcounts, hfirst⟩ := ih hrest (place + 1)
    have hc := ne_backslash hlone hescape
    have hlength : place + (c :: text).length = place + 1 + text.length := by
      rw [List.length_cons]
      omega
    rw [hlength]
    refine ⟨hcounts.append_left [c] (protectsNext_concat [] hc), fun p more hp => ?_⟩
    rcases hp.cons_cases hc with ⟨_, heq⟩ | hp
    · exact absurd (List.isPrefixOf_iff_prefix.2 ⟨more, heq⟩) hprefix
    · exact hfirst p more hp

theorem not_countsAt_of_breakOnUnescaped_eq_none {kind : Emphasis} {s : List Char}
    (h : breakOnUnescaped kind.marker s = none) (place p : Nat) (after : List Char) :
    ¬ CountsAt place s p (kind.marker ++ after) := by
  intro hp
  fun_induction breakOnUnescaped kind.marker s generalizing place with
  | case1 => exact CountsAt.not_marker_of_nil kind hp
  | case2 => exact CountsAt.not_marker_of_backslash kind hp
  | case3 c rest ih => exact ih (Option.map_eq_none_iff.1 h) (place + 2) (hp.marker_of_escape kind)
  | case4 => cases h
  | case5 c rest hlone hescape hprefix ih =>
    rcases hp.cons_cases (ne_backslash hlone hescape) with ⟨_, heq⟩ | hp
    · exact absurd (List.isPrefixOf_iff_prefix.2 ⟨after, heq⟩) hprefix
    · exact ih (Option.map_eq_none_iff.1 h) (place + 1) hp

theorem isClosedBy_of_breakOnUnescaped {kind : Emphasis} {s text after : List Char}
    (h : breakOnUnescaped kind.marker s = some (text, after)) : IsClosedBy kind.marker text := by
  obtain ⟨hcounts, hfirst⟩ := of_breakOnUnescaped_eq_some h 0
  rw [Nat.zero_add] at hcounts hfirst
  have hs := breakOnUnescaped_eq_append h
  have htext : protectsNext text = false := by
    obtain ⟨before, hbefore, hlength, hfree⟩ := hcounts
    rw [hs, List.append_assoc] at hbefore
    rw [Nat.zero_add] at hlength
    rw [(List.append_inj hbefore hlength).1]
    exact hfree
  refine ⟨⟨text, rfl, (Nat.zero_add _).symm, htext⟩, fun p more hp => ?_⟩
  have hle : text.length ≤ p := by
    have hwhole := hp.append_right after
    rw [← hs, List.append_assoc] at hwhole
    exact hfirst p _ hwhole
  have hge := congrArg List.length hp.drop_eq
  simp only [Nat.sub_zero, List.length_drop, List.length_append] at hge
  have hpos : 0 < kind.marker.length := by
    obtain ⟨back, hmarker⟩ := exists_marker_eq_cons kind
    rw [hmarker]
    exact Nat.succ_pos _
  omega

namespace IsSpan

variable {place : Nat} {text : List Char} {s : Span} (h : IsSpan place text s)

include h

/-- The text of a span begins with no blank. -/
theorem isBlank_head : ∀ c ∈ s.text.head?, isBlank c = false := by
  intro c hc
  obtain ⟨after, hopener⟩ := h.isOpener
  have hinked := hopener.startsInked_inner
  obtain ⟨rest, hrest⟩ := List.head?_eq_some_iff.1 hc
  rw [hrest] at hinked
  simpa [startsInked] using hinked

/-- No closing marker in the text of a span counts. -/
theorem isNeverClosed : IsNeverClosed s.kind.marker s.text := by
  intro p after hp
  have hlast := h.isClosedBy.isFirst p _ ((List.append_assoc _ _ _) ▸ hp.append_right s.kind.marker)
  have hlength := congrArg List.length hp.drop_eq
  obtain ⟨back, hmarker⟩ := exists_marker_eq_cons s.kind
  rw [hlast, hmarker] at hlength
  simp at hlength

end IsSpan

/-! ## The reading of a line -/

section Reading

variable {place : Nat} {text : List Char}

/-- Each span is opened and closed by markers that count. -/
theorem isSpan_of_mem_spansFrom {s : Span} (h : s ∈ (spansFrom place text).spans) : IsSpan place text s := by
  fun_induction spansFrom place text with
  | case1 => cases h
  | case2 => cases h
  | case3 place c rest ih => exact (ih h).append_left ['\\', c] (protectsNext_escape c)
  | case4 place c rest hlone hescape hc ih =>
    exact (ih h).append_left [c] (protectsNext_concat [] (ne_backslash hlone hescape))
  | case5 => cases h
  | case6 place c rest _ _ hc kind inner _ hinked text after hbreak _ span later ih =>
    obtain rfl : c = '*' := Decidable.of_not_not hc
    rcases List.mem_cons.1 h with rfl | h
    · have hopener := isOpener_opening place hinked
      have hinner : (Emphasis.opening rest).2 = text ++ kind.marker ++ after := breakOnUnescaped_eq_append hbreak
      rw [hinner] at hopener
      exact ⟨⟨after, hopener⟩, isClosedBy_of_breakOnUnescaped hbreak⟩
    · rw [eq_source_append place hbreak]
      have hlater := ih h
      rw [← span.length_source] at hlater
      exact hlater.append_left span.source (protectsNext_source span)
  | case7 place c rest _ _ hc kind inner _ _ ih =>
    obtain rfl : c = '*' := Decidable.of_not_not hc
    rw [← Emphasis.marker_append_opening rest]
    exact (ih h).append_left kind.marker (protectsNext_marker [] kind)

/-- The reading stops at an opener that nothing closes, behind all spans. -/
theorem of_unterminated_eq_some {kind : Emphasis} {stop : Nat}
    (h : (spansFrom place text).unterminated = some (kind, stop)) :
    (∀ s ∈ (spansFrom place text).spans, s.stop ≤ stop) ∧
      ∃ inner, IsOpener place text stop kind inner ∧ IsNeverClosed kind.marker inner := by
  fun_induction spansFrom place text with
  | case1 => cases h
  | case2 => cases h
  | case3 place c rest ih =>
    obtain ⟨hspans, inner, hopener, hclosed⟩ := ih h
    exact ⟨hspans, inner, hopener.append_left ['\\', c] (protectsNext_escape c), hclosed⟩
  | case4 place c rest hlone hescape hc ih =>
    obtain ⟨hspans, inner, hopener, hclosed⟩ := ih h
    have hfront := protectsNext_concat [] (ne_backslash hlone hescape)
    exact ⟨hspans, inner, hopener.append_left [c] hfront, hclosed⟩
  | case5 place c rest _ _ hc kind' inner _ hinked hbreak =>
    obtain rfl : c = '*' := Decidable.of_not_not hc
    obtain ⟨rfl, rfl⟩ := Prod.mk.inj (Option.some.inj h)
    refine ⟨fun s hs => absurd hs List.not_mem_nil, inner, isOpener_opening place hinked, ?_⟩
    exact not_countsAt_of_breakOnUnescaped_eq_none hbreak 0
  | case6 place c rest _ _ hc kind' inner _ hinked text after hbreak _ span later ih =>
    obtain rfl : c = '*' := Decidable.of_not_not hc
    obtain ⟨hspans, inner', hopener, hclosed⟩ := ih h
    refine ⟨List.forall_mem_cons.2 ⟨hopener.countsAt.place_le, hspans⟩, inner', ?_, hclosed⟩
    rw [← span.length_source] at hopener
    rw [eq_source_append place hbreak]
    exact hopener.append_left span.source (protectsNext_source span)
  | case7 place c rest _ _ hc kind' inner _ _ ih =>
    obtain rfl : c = '*' := Decidable.of_not_not hc
    obtain ⟨hspans, inner', hopener, hclosed⟩ := ih h
    refine ⟨hspans, inner', ?_, hclosed⟩
    rw [← Emphasis.marker_append_opening rest]
    exact hopener.append_left kind'.marker (protectsNext_marker [] kind')

/-- An asterisk that counts and that has been read is in a span or literal. -/
theorem isLiteral_of_countsAt {p : Nat} {after : List Char} (h : CountsAt place text p ('*' :: after))
    (hspans : ∀ s ∈ (spansFrom place text).spans, p < s.start ∨ s.stop ≤ p)
    (hstop : ∀ kind stop, (spansFrom place text).unterminated = some (kind, stop) → p < stop) :
    IsLiteral place text p := by
  fun_induction spansFrom place text with
  | case1 => exact absurd h (CountsAt.not_marker_of_nil .italic)
  | case2 => exact absurd h (CountsAt.not_marker_of_backslash .italic)
  | case3 place c rest ih =>
    have hlater := ih (h.marker_of_escape .italic) hspans hstop
    exact hlater.append_left ['\\', c] (protectsNext_escape c)
  | case4 place c rest hlone hescape hc ih =>
    have hbackslash := ne_backslash hlone hescape
    rcases h.cons_cases hbackslash with ⟨_, heq⟩ | h
    · exact absurd (List.cons.inj heq).1.symm hc
    · exact (ih h hspans hstop).append_left [c] (protectsNext_concat [] hbackslash)
  | case5 place c rest _ _ hc kind inner _ hinked hbreak =>
    have hlt := hstop kind place rfl
    exact absurd h.place_le (Nat.not_le.2 hlt)
  | case6 place c rest _ _ hc kind inner _ hinked text after hbreak _ span later ih =>
    obtain rfl : c = '*' := Decidable.of_not_not hc
    obtain ⟨hspan, hlater⟩ := List.forall_mem_cons.1 hspans
    have hge : span.stop ≤ p := hspan.resolve_left (Nat.not_lt.2 h.place_le)
    have hsource : place + span.source.length = span.stop := span.length_source
    rw [eq_source_append place hbreak] at h ⊢
    have hbehind := h.of_append span.source (protectsNext_source span) (hsource.trans_le hge)
    have hliteral := ih (hsource ▸ hbehind) hlater hstop
    exact IsLiteral.append_left span.source (protectsNext_source span) (hsource.symm ▸ hliteral)
  | case7 place c rest _ _ hc kind inner _ hblank ih =>
    obtain rfl : c = '*' := Decidable.of_not_not hc
    have hmarker := protectsNext_marker [] kind
    rw [← Emphasis.marker_append_opening rest] at h ⊢
    rcases Nat.lt_or_ge p (place + kind.width) with hlt | hge
    · exact ⟨place, kind, inner, CountsAt.refl place _, Bool.eq_false_iff.2 hblank, h.place_le, hlt⟩
    · have hbehind := h.of_append kind.marker hmarker hge
      exact (ih hbehind hspans hstop).append_left kind.marker hmarker

/-- Behind the spans of a text, this opener is closed by nothing. -/
def IsUnclosed (place : Nat) (text : List Char) (spans : List Span) (kind : Emphasis) (start : Nat) : Prop :=
  (∀ s ∈ spans, s.stop ≤ start) ∧ ∃ inner, IsOpener place text start kind inner ∧ IsNeverClosed kind.marker inner

/-- The reading gets to the end of the line if every opener is closed. -/
theorem not_isUnclosed_of_unterminated_eq_none (h : (spansFrom place text).unterminated = none) (kind : Emphasis)
    (start : Nat) : ¬ IsUnclosed place text (spansFrom place text).spans kind start := by
  rintro ⟨hspans, inner, hopener, _⟩
  obtain ⟨back, hmarker⟩ := exists_marker_eq_cons kind
  have hcounts := hopener.countsAt
  rw [hmarker, List.cons_append] at hcounts
  refine hopener.not_isLiteral (isLiteral_of_countsAt hcounts (fun s hs => .inr (hspans s hs)) ?_)
  intro kind stop hstop
  rw [h] at hstop
  cases hstop

end Reading

theorem faults_spansOfLines_concat (earlier : List Cursor) (c : Cursor) :
    (spansOfLines (earlier ++ [c])).faults = (spansOfLines earlier).faults ++ (spansOfLine c).faults := by
  simp only [spansOfLines, List.flatMap_append, List.flatMap_singleton]

/-- The byte offsets of its places cut a span out of its line, with its markers or without them. -/
theorem slice?_of_mem_spansOf {line : Line} {start : Nat} {s : Span} (h : s ∈ (spansOf line start).spans) :
    slice? line (utf8Length (line.take s.start)) (utf8Length (line.take s.stop)) = some s.source ∧
      slice? line (utf8Length (line.take s.innerStart)) (utf8Length (line.take s.innerStop)) = some s.text := by
  obtain ⟨before, after, hline, hplace⟩ := stands_drop (source_ne_nil s) (stands_of_mem_spansFrom h)
  rw [Nat.zero_add] at hplace
  obtain ⟨hstart, hinnerStart, hinnerStop, hstop⟩ := s.take_eq hline hplace
  have hsplit : line = (before ++ s.kind.marker) ++ s.text ++ (s.kind.marker ++ after) := by
    rw [hline]
    simp only [Span.source, List.append_assoc]
  rw [hstart, hinnerStart, hinnerStop, hstop]
  refine ⟨?_, ?_⟩
  · rw [hline]
    exact slice?_append before s.source after
  · rw [hsplit]
    exact slice?_append (before ++ s.kind.marker) s.text _

/-- The spans of a line from a place on are one behind the other, and each of them is opened and closed by markers that
count.  All other asterisks that count and have been read are literal.  The reading adds one fault to earlier ones, if
behind the spans there is an opener that nothing closes, and none otherwise. -/
theorem spans_of_line_exact (l : NumberedLine) (start : Nat) (earlier : List Cursor) :
    let rest := l.text.drop start
    let read := spansOf l.text start
    (∀ s ∈ read.spans, start ≤ s.start ∧ IsSpan start rest s ∧ (∀ c ∈ s.text.head?, isBlank c = false) ∧
        IsNeverClosed s.kind.marker s.text ∧
        slice? l.text (utf8Length (l.text.take s.start)) (utf8Length (l.text.take s.stop)) =
          some (s.kind.marker ++ s.text ++ s.kind.marker) ∧
        slice? l.text (utf8Length (l.text.take s.innerStart)) (utf8Length (l.text.take s.innerStop)) = some s.text) ∧
      read.spans.Pairwise (fun s t => s.stop ≤ t.start) ∧
      (∀ p after, CountsAt start rest p ('*' :: after) → (∀ s ∈ read.spans, p < s.start ∨ s.stop ≤ p) →
        (∀ kind stop, read.unterminated = some (kind, stop) → p < stop) → IsLiteral start rest p) ∧
      ∃ faults, (spansOfLines (earlier ++ [⟨l, start⟩])).faults = (spansOfLines earlier).faults ++ faults ∧
        (read.unterminated = none ∧ faults = [] ∧ (∀ kind stop, ¬ IsUnclosed start rest read.spans kind stop) ∨
          ∃ kind stop, read.unterminated = some (kind, stop) ∧
            faults = [⟨.unterminated kind, l.number + 1, column l.text stop, some kind.marker⟩] ∧
            IsUnclosed start rest read.spans kind stop) := by
  intro rest read
  refine ⟨?_, pairwise_spansFrom start rest, fun p after => isLiteral_of_countsAt, (spansOfLine ⟨l, start⟩).faults,
    faults_spansOfLines_concat earlier ⟨l, start⟩, ?_⟩
  · intro s hs
    have hspan := isSpan_of_mem_spansFrom hs
    obtain ⟨houter, hinner⟩ := slice?_of_mem_spansOf hs
    exact ⟨(stands_of_mem_spansFrom hs).place_le, hspan, hspan.isBlank_head, hspan.isNeverClosed, houter, hinner⟩
  · unfold spansOfLine
    cases hstop : read.unterminated with
    | none =>
      refine .inl ⟨rfl, ?_, not_isUnclosed_of_unterminated_eq_none hstop⟩
      simp only [read] at hstop
      simp only [hstop]
      rfl
    | some stopped =>
      obtain ⟨kind, stop⟩ := stopped
      refine .inr ⟨kind, stop, rfl, ?_, of_unterminated_eq_some hstop⟩
      simp only [read] at hstop
      simp only [hstop]
      rfl

end Traceability.Document
