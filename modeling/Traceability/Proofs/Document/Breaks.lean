import Traceability.Proofs.Document.Escapes
set_option autoImplicit false

/-!
# Lines that are broken in a gap

A line can be broken in a gap, which is a run of blanks that no span reaches across.  If every marker of the line is
closed, its two parts have the spans that stood in front of the gap and behind it, and no other ones: a blank cannot be
part of a marker, an asterisk at the end of the first part is as literal as it was in front of the gap, and a backslash
there took nothing but a blank out of consideration.
-/

namespace Traceability.Document

open Text

/-! ## Closing markers -/

/-- Text behind a closing marker does not change what is closed. -/
theorem breakOnUnescaped_append_right {mark s text after : List Char}
    (h : breakOnUnescaped mark s = some (text, after)) (more : List Char) :
    breakOnUnescaped mark (s ++ more) = some (text, after ++ more) := by
  fun_induction breakOnUnescaped mark s generalizing text with
  | case1 => cases h
  | case2 => cases h
  | case3 c rest ih =>
    obtain ⟨⟨text, after⟩, hrest, heq⟩ := Option.map_eq_some_iff.1 h
    obtain ⟨rfl, rfl⟩ := Prod.mk.inj heq
    rw [List.cons_append, List.cons_append, breakOnUnescaped, ih hrest]
    rfl
  | case4 c rest hlone hescape hprefix =>
    obtain ⟨rfl, rfl⟩ := Prod.mk.inj (Option.some.inj h)
    have hstarts : mark <+: c :: rest := List.isPrefixOf_iff_prefix.1 hprefix
    have hlonger : mark.isPrefixOf (c :: (rest ++ more)) = true :=
      List.isPrefixOf_iff_prefix.2 (hstarts.trans (List.prefix_append _ more))
    rw [List.cons_append, breakOnUnescaped_cons_of_ne (ne_backslash hlone hescape), if_pos hlonger,
      ← List.cons_append, List.drop_append_of_le_length hstarts.length_le]
  | case5 c rest hlone hescape hprefix ih =>
    obtain ⟨⟨text, after⟩, hrest, heq⟩ := Option.map_eq_some_iff.1 h
    obtain ⟨rfl, rfl⟩ := Prod.mk.inj heq
    -- There is room for a marker in what follows, so none begins here that reaches into the text behind.
    have hroom : mark.length ≤ (c :: rest).length := by
      rw [breakOnUnescaped_eq_append hrest, List.length_cons, List.length_append, List.length_append]
      omega
    have hshorter : mark.isPrefixOf (c :: (rest ++ more)) = false := by
      rw [Bool.eq_false_iff]
      intro hlonger
      have hstarts : mark <+: (c :: rest) ++ more := List.isPrefixOf_iff_prefix.1 hlonger
      exact hprefix (List.isPrefixOf_iff_prefix.2
        (List.prefix_of_prefix_length_le hstarts (List.prefix_append _ more) hroom))
    rw [List.cons_append, breakOnUnescaped_cons_of_ne (ne_backslash hlone hescape), hshorter, ih hrest]
    rfl

/-- A marker that is closed in the front of a text is closed without what follows it. -/
theorem breakOnUnescaped_ne_none {kind : Emphasis} {s more text after : List Char}
    (h : breakOnUnescaped kind.marker (s ++ more) = some (text, after)) (hroom : text.length + kind.width ≤ s.length) :
    breakOnUnescaped kind.marker s ≠ none := by
  intro hnone
  obtain ⟨⟨before, hsplit, hlength, hcounts⟩, _⟩ := of_breakOnUnescaped_eq_some h 0
  rw [Nat.zero_add, Nat.zero_add] at hlength
  rw [← List.append_assoc] at hsplit
  have hprefix : before ++ kind.marker <+: s := by
    refine List.prefix_of_prefix_length_le ⟨after, hsplit.symm⟩ (List.prefix_append s more) ?_
    rw [List.length_append, ← hlength]
    exact hroom
  obtain ⟨rest, hrest⟩ := hprefix
  have hreached : CountsAt 0 s before.length (kind.marker ++ rest) := by
    refine ⟨before, ?_, (Nat.zero_add _).symm, hcounts⟩
    rw [← hrest, List.append_assoc]
  exact not_countsAt_of_breakOnUnescaped_eq_none hnone 0 before.length rest hreached

/-! ## The reading of an asterisk -/

theorem length_opening (rest : List Char) :
    (Emphasis.opening rest).1.width + (Emphasis.opening rest).2.length = rest.length + 1 := by
  have hlength := congrArg List.length (Emphasis.marker_append_opening rest)
  rwa [List.length_append, List.length_cons] at hlength

section Asterisk

variable {rest : List Char} (place : Nat)

theorem spansFrom_asterisk_of_blank (hblank : startsInked (Emphasis.opening rest).2 = false) :
    spansFrom place ('*' :: rest) = spansFrom (place + (Emphasis.opening rest).1.width) (Emphasis.opening rest).2 := by
  rw [spansFrom]
  · rw [if_neg (not_not_intro rfl)]
    simp only [hblank, Bool.false_eq_true, if_false]
  · exact fun h => absurd h (by decide)
  · exact fun _ _ h => absurd h (by decide)

theorem spansFrom_asterisk_of_breakOnUnescaped_eq_none (hinked : startsInked (Emphasis.opening rest).2 = true)
    (hbreak : breakOnUnescaped (Emphasis.opening rest).1.marker (Emphasis.opening rest).2 = none) :
    spansFrom place ('*' :: rest) = ⟨[], some ((Emphasis.opening rest).1, place)⟩ := by
  rw [spansFrom]
  · rw [if_neg (not_not_intro rfl)]
    simp only [hinked, if_true]
    split
    · rfl
    · next text after hsome =>
      rw [hbreak] at hsome
      cases hsome
  · exact fun h => absurd h (by decide)
  · exact fun _ _ h => absurd h (by decide)

end Asterisk

theorem spansFrom_escape (place : Nat) (c : Char) (rest : List Char) :
    spansFrom place ('\\' :: c :: rest) = spansFrom (place + 2) rest := by
  rw [spansFrom]

/-! ## Spans further on -/

/-- The span that begins so many characters further on. -/
def Span.moveRight (n : Nat) (s : Span) : Span := { s with start := s.start + n }

theorem Span.stop_moveRight (n : Nat) (s : Span) : (s.moveRight n).stop = s.stop + n := by
  simp only [Span.stop, Span.innerStop, Span.innerStart, Span.moveRight]
  omega

/-- The same text has the same spans wherever it begins. -/
theorem spansFrom_moveRight (place n : Nat) (text : List Char) :
    spansFrom (place + n) text =
      ⟨(spansFrom place text).spans.map (Span.moveRight n),
        (spansFrom place text).unterminated.map fun stopped => (stopped.1, stopped.2 + n)⟩ := by
  fun_induction spansFrom place text with
  | case1 place =>
    rw [spansFrom]
    rfl
  | case2 place =>
    rw [spansFrom]
    rfl
  | case3 place c rest ih => rw [spansFrom_escape, Nat.add_right_comm, ih]
  | case4 place c rest hlone hescape hc ih =>
    rw [spansFrom_cons_of_ne hc (ne_backslash hlone hescape), Nat.add_right_comm, ih]
  | case5 place c rest _ _ hc kind inner _ hinked hbreak =>
    obtain rfl : c = '*' := Decidable.of_not_not hc
    rw [spansFrom_asterisk_of_breakOnUnescaped_eq_none _ hinked hbreak]
    rfl
  | case6 place c rest _ _ hc kind inner _ hinked text after hbreak _ span later ih =>
    obtain rfl : c = '*' := Decidable.of_not_not hc
    have hstop : (Span.mk (Emphasis.opening rest).1 (place + n) text).stop = span.stop + n := span.stop_moveRight n
    rw [spansFrom_asterisk hinked hbreak, hstop, ih]
    rfl
  | case7 place c rest _ _ hc kind inner _ hblank ih =>
    obtain rfl : c = '*' := Decidable.of_not_not hc
    rw [spansFrom_asterisk_of_blank _ (Bool.eq_false_iff.2 hblank), Nat.add_right_comm, ih]

/-! ## Gaps -/

theorem isUnmarked_of_blank {gap : List Char} (h : ∀ c ∈ gap, isBlank c = true) : IsUnmarked gap := by
  intro c hc
  have hblank := h c hc
  constructor
  · rintro rfl
    exact absurd hblank (by decide)
  · rintro rfl
    exact absurd hblank (by decide)

section Break

variable {gap : List Char} (hgap : ∀ c ∈ gap, isBlank c = true) (hne : gap ≠ []) (y : List Char)

include hgap hne

/-- A gap behind a text that does not begin with ink gives it none to begin with. -/
theorem startsInked_append_gap (s : List Char) : startsInked (s ++ (gap ++ y)) = startsInked s := by
  cases s with
  | cons c rest => rfl
  | nil =>
    obtain ⟨c, rest, rfl⟩ := List.exists_cons_of_ne_nil hne
    simp only [List.nil_append, List.cons_append, startsInked, hgap c List.mem_cons_self, Bool.not_true]

/-- A gap behind an asterisk does not change which marker begins there. -/
theorem opening_append_gap (rest : List Char) :
    Emphasis.opening (rest ++ (gap ++ y)) = ((Emphasis.opening rest).1, (Emphasis.opening rest).2 ++ (gap ++ y)) := by
  cases rest with
  | nil =>
    obtain ⟨c, others, rfl⟩ := List.exists_cons_of_ne_nil hne
    exact opening_cons_of_ne (isUnmarked_of_blank hgap c List.mem_cons_self).1 _
  | cons c rest =>
    by_cases hc : c = '*'
    · rw [hc]
      rfl
    · rw [List.cons_append, opening_cons_of_ne hc, opening_cons_of_ne hc, List.cons_append]

/-- A text without open markers that is broken in a gap at the place `last` has the spans of its two parts. -/
theorem spansFrom_append_gap {place last : Nat} {x : List Char} (hlast : place + x.length = last)
    (hclosed : (spansFrom place (x ++ (gap ++ y))).unterminated = none)
    (hapart : ∀ s ∈ (spansFrom place (x ++ (gap ++ y))).spans, s.stop ≤ last ∨ last + gap.length ≤ s.start) :
    (spansFrom place (x ++ (gap ++ y))).spans =
        (spansFrom place x).spans ++ (spansFrom (last + gap.length) y).spans ∧
      (spansFrom place x).unterminated = none ∧ (spansFrom (last + gap.length) y).unterminated = none := by
  have hunmarked := isUnmarked_of_blank hgap
  fun_induction spansFrom place x with
  | case1 place =>
    obtain rfl : place = last := hlast
    rw [List.nil_append, spansFrom_append hunmarked] at hclosed ⊢
    exact ⟨rfl, rfl, hclosed⟩
  | case2 place =>
    obtain rfl : place + 1 = last := hlast
    -- The backslash takes the first blank of the gap out of consideration, and nothing else.
    obtain ⟨c, others, rfl⟩ := List.exists_cons_of_ne_nil hne
    have hread : spansFrom place (['\\'] ++ (c :: others ++ y)) = spansFrom (place + 1 + (c :: others).length) y := by
      have hplace : place + 2 + others.length = place + 1 + (c :: others).length := by
        rw [List.length_cons]
        omega
      rw [List.singleton_append, List.cons_append, spansFrom_escape,
        spansFrom_append (fun d hd => hunmarked d (List.mem_cons_of_mem c hd)), hplace]
    rw [hread] at hclosed ⊢
    exact ⟨rfl, rfl, hclosed⟩
  | case3 place c rest ih =>
    rw [List.cons_append, List.cons_append, spansFrom_escape] at hclosed hapart ⊢
    have hplace : place + 2 + rest.length = last := by
      rw [List.length_cons, List.length_cons] at hlast
      omega
    exact ih hplace hclosed hapart
  | case4 place c rest hlone hescape hc ih =>
    rw [List.cons_append, spansFrom_cons_of_ne hc (ne_backslash hlone hescape)] at hclosed hapart ⊢
    have hplace : place + 1 + rest.length = last := by
      rw [List.length_cons] at hlast
      omega
    exact ih hplace hclosed hapart
  | case5 place c rest _ _ hc kind inner _ hinked hbreak =>
    obtain rfl : c = '*' := Decidable.of_not_not hc
    -- Either nothing closes the marker in the whole line, or a span reaches across the gap.
    exfalso
    have hopening := opening_append_gap hgap hne y rest
    have hstarts : startsInked (Emphasis.opening (rest ++ (gap ++ y))).2 = true := by
      rw [hopening, startsInked_append_gap hgap hne]
      exact hinked
    rw [List.cons_append] at hclosed hapart
    cases hlonger : breakOnUnescaped (Emphasis.opening (rest ++ (gap ++ y))).1.marker
        (Emphasis.opening (rest ++ (gap ++ y))).2 with
    | none =>
      rw [spansFrom_asterisk_of_breakOnUnescaped_eq_none place hstarts hlonger] at hclosed
      cases hclosed
    | some split =>
      obtain ⟨text, after⟩ := split
      rw [spansFrom_asterisk hstarts hlonger] at hapart
      have hspan := hapart _ List.mem_cons_self
      rw [hopening] at hlonger hspan
      have hlength : kind.width + inner.length = rest.length + 1 := length_opening rest
      have hstop : (Span.mk kind place text).stop = place + kind.width + text.length + kind.width := rfl
      rw [List.length_cons] at hlast
      have hroom : text.length + kind.width ≤ inner.length := by
        rcases hspan with hspan | hspan
        · rw [hstop] at hspan
          omega
        · simp only at hspan
          omega
      exact breakOnUnescaped_ne_none hlonger hroom hbreak
  | case6 place c rest _ _ hc kind inner _ hinked text after hbreak _ span later ih =>
    obtain rfl : c = '*' := Decidable.of_not_not hc
    have hopening := opening_append_gap hgap hne y rest
    have hstarts : startsInked (Emphasis.opening (rest ++ (gap ++ y))).2 = true := by
      rw [hopening, startsInked_append_gap hgap hne]
      exact hinked
    have hlonger : breakOnUnescaped (Emphasis.opening (rest ++ (gap ++ y))).1.marker
        (Emphasis.opening (rest ++ (gap ++ y))).2 = some (text, after ++ (gap ++ y)) := by
      rw [hopening]
      exact breakOnUnescaped_append_right hbreak _
    have hread := spansFrom_asterisk hstarts hlonger place
    rw [hopening] at hread
    rw [List.cons_append, hread] at hclosed hapart ⊢
    have hplace : span.stop + after.length = last := by
      have hsource : place + span.source.length = span.stop := span.length_source
      rw [eq_source_append place hbreak, List.length_append, ← Nat.add_assoc, hsource] at hlast
      exact hlast
    obtain ⟨hspans, hfront, hback⟩ := ih hplace hclosed fun s hs => hapart s (List.mem_cons_of_mem _ hs)
    exact ⟨congrArg (span :: ·) hspans, hfront, hback⟩
  | case7 place c rest _ _ hc kind inner _ hblank ih =>
    obtain rfl : c = '*' := Decidable.of_not_not hc
    have hopening := opening_append_gap hgap hne y rest
    have hstarts : startsInked (Emphasis.opening (rest ++ (gap ++ y))).2 = false := by
      rw [hopening, startsInked_append_gap hgap hne]
      exact Bool.eq_false_iff.2 hblank
    have hread := spansFrom_asterisk_of_blank place hstarts
    rw [hopening] at hread
    rw [List.cons_append, hread] at hclosed hapart ⊢
    have hplace : place + kind.width + inner.length = last := by
      have hlength : kind.width + inner.length = rest.length + 1 := length_opening rest
      rw [List.length_cons] at hlast
      omega
    exact ih hplace hclosed hapart

end Break

/-! ## Kinds -/

/-- Whether the text, in front of which only blanks stand on its line, makes the line a heading. -/
def startsHeading (inked : List Char) : Bool :=
  1 ≤ (inked.takeWhile (· == '#')).length && (inked.takeWhile (· == '#')).length ≤ maxLevel &&
    !startsInked (inked.dropWhile (· == '#'))

/-- Whether the text, in front of which only blanks stand on its line, makes the line a bullet. -/
def startsItem : List Char → Bool
  | [] => false
  | c :: rest => (c == '*' || c == '-') && !rest.isEmpty && !startsInked rest

theorem classify_eq_text_iff {line : Line} {indented : Bool} :
    classify line = .text indented ↔
      trimStart line ≠ [] ∧ startsHeading (trimStart line) = false ∧ startsItem (trimStart line) = false ∧
        indented = (blanksBefore line != 0) := by
  unfold classify
  cases trimStart line with
  | nil => simp
  | cons c rest =>
    have hheading : startsHeading (c :: rest) = (1 ≤ ((c :: rest).takeWhile (· == '#')).length &&
        ((c :: rest).takeWhile (· == '#')).length ≤ maxLevel &&
          !startsInked ((c :: rest).dropWhile (· == '#'))) := rfl
    have hitem : startsItem (c :: rest) = ((c == '*' || c == '-') && !rest.isEmpty && !startsInked rest) := rfl
    simp only [← hheading, ← hitem]
    cases startsHeading (c :: rest) with
    | true => simp
    | false =>
      cases startsItem (c :: rest) with
      | true => simp
      | false => simp [eq_comm]

section Gap

variable {gap : List Char} (hgap : ∀ c ∈ gap, isBlank c = true) (hne : gap ≠ []) (y : List Char)

include hgap hne

theorem startsHeading_append_gap (s : List Char) : startsHeading (s ++ (gap ++ y)) = startsHeading s := by
  have hinked := startsInked_append_gap hgap hne y (s.dropWhile (· == '#'))
  obtain ⟨c, rest, rfl⟩ := List.exists_cons_of_ne_nil hne
  have hc : (c == '#') = false := by
    rw [beq_eq_false_iff_ne]
    rintro rfl
    exact absurd (hgap _ List.mem_cons_self) (by decide)
  rw [List.cons_append] at hinked ⊢
  unfold startsHeading
  rw [takeWhile_append_cons (q := (· == '#')) hc, dropWhile_append_cons (q := (· == '#')) hc, hinked]

theorem startsItem_of_append_gap {s : List Char} (h : startsItem (s ++ (gap ++ y)) = false) : startsItem s = false := by
  cases s with
  | nil => rfl
  | cons c rest =>
    have hempty : (rest ++ (gap ++ y)).isEmpty = false := by simp [hne]
    rw [List.cons_append, startsItem, startsInked_append_gap hgap hne, hempty, Bool.not_false, Bool.and_true,
      Bool.and_eq_false_iff] at h
    rw [startsItem]
    rcases h with hc | hrest
    · rw [hc]
      rfl
    · rw [hrest, Bool.and_false]

end Gap

section Front

variable {front : Line} (h : isBlankLine front = false) (more : Line)

include h

theorem trimStart_append_of_inked : trimStart (front ++ more) = trimStart front ++ more := by
  have hinked := mt (trimStart_eq_nil_iff front).1 (Bool.eq_false_iff.1 h)
  unfold trimStart at hinked ⊢
  rw [List.dropWhile_append, if_neg (by simpa using hinked)]

theorem blanksBefore_append_of_inked : blanksBefore (front ++ more) = blanksBefore front := by
  obtain ⟨blanks, c, rest, rfl, _, hc⟩ := exists_inked_of_not_blank h
  unfold blanksBefore
  rw [List.append_assoc, List.cons_append, takeWhile_append_cons hc, takeWhile_append_cons hc]

end Front

theorem trimStart_trimStart (s : List Char) : trimStart (trimStart s) = trimStart s := by
  have hstart := List.head?_dropWhile_not isBlank s
  unfold trimStart
  cases hdrop : s.dropWhile isBlank with
  | nil => rfl
  | cons c rest =>
    rw [hdrop] at hstart
    exact List.dropWhile_cons_of_neg (by simpa using hstart)

/-! ## Breaks -/

/-- A line and a gap in which it may be broken into two lines: no span reaches across the gap, there is text in front of
it, and the text behind it makes no heading and no bullet. -/
structure LineBreak where
  front : Line
  gap : List Char
  back : Line
  gap_ne_nil : gap ≠ []
  isBlank_gap : ∀ c ∈ gap, isBlank c = true
  isApart : ∀ s ∈ (spansOf (front ++ gap ++ back) (blanksBefore (front ++ gap ++ back))).spans,
    s.stop ≤ front.length ∨ (front ++ gap).length ≤ s.start
  isBlankLine_front : isBlankLine front = false
  isText_back : ∃ indented, classify (trimStart back) = .text indented

namespace LineBreak

variable (b : LineBreak)

/-- The line as it is before it is broken. -/
def line : Line := b.front ++ b.gap ++ b.back

theorem line_eq : b.line = b.front ++ (b.gap ++ b.back) := List.append_assoc _ _ _

theorem blanksBefore_line : blanksBefore b.line = blanksBefore b.front := by
  rw [line_eq]
  exact blanksBefore_append_of_inked b.isBlankLine_front _

/-- The first part is text like the whole line. -/
theorem classify_front {indented : Bool} (h : classify b.line = .text indented) :
    classify b.front = .text indented := by
  obtain ⟨_, hheading, hitem, hindented⟩ := classify_eq_text_iff.1 h
  rw [line_eq, trimStart_append_of_inked b.isBlankLine_front] at hheading hitem
  rw [blanksBefore_line] at hindented
  refine classify_eq_text_iff.2 ⟨mt (trimStart_eq_nil_iff b.front).1 (Bool.eq_false_iff.1 b.isBlankLine_front), ?_, ?_,
    hindented⟩
  · rwa [startsHeading_append_gap b.isBlank_gap b.gap_ne_nil] at hheading
  · exact startsItem_of_append_gap b.isBlank_gap b.gap_ne_nil _ hitem

/-- The second part is text, too. -/
theorem exists_classify_back : ∃ indented, classify b.back = .text indented := by
  obtain ⟨indented, htext⟩ := b.isText_back
  obtain ⟨hinked, hheading, hitem, _⟩ := classify_eq_text_iff.1 htext
  rw [trimStart_trimStart] at hinked hheading hitem
  exact ⟨_, classify_eq_text_iff.2 ⟨hinked, hheading, hitem, rfl⟩⟩

/-- Each of the two lines has the spans of its part, and each of their markers is closed. -/
theorem spans_line (h : (spansOf b.line (blanksBefore b.line)).unterminated = none) :
    (spansOf b.line (blanksBefore b.line)).spans =
        (spansOf b.front (blanksBefore b.front)).spans ++
          (spansOf b.back (blanksBefore b.back)).spans.map (Span.moveRight (b.front ++ b.gap).length) ∧
      (spansOf b.front (blanksBefore b.front)).unterminated = none ∧
      (spansOf b.back (blanksBefore b.back)).unterminated = none := by
  have hstart : blanksBefore b.front ≤ b.front.length :=
    (List.takeWhile_prefix isBlank).length_le
  have hdrop : b.line.drop (blanksBefore b.line) =
      b.front.drop (blanksBefore b.front) ++ (b.gap ++ b.back) := by
    rw [blanksBefore_line, line_eq, List.drop_append_of_le_length hstart]
  have hlast : blanksBefore b.front + (b.front.drop (blanksBefore b.front)).length = b.front.length := by
    rw [List.length_drop]
    omega
  have hread : spansOf b.line (blanksBefore b.line) =
      spansFrom (blanksBefore b.front) (b.front.drop (blanksBefore b.front) ++ (b.gap ++ b.back)) := by
    unfold spansOf
    rw [hdrop, blanksBefore_line]
  have hapart : ∀ s ∈ (spansOf b.line (blanksBefore b.line)).spans,
      s.stop ≤ b.front.length ∨ b.front.length + b.gap.length ≤ s.start := by
    rw [← List.length_append]
    exact b.isApart
  rw [hread] at h hapart ⊢
  obtain ⟨hspans, hfront, hback⟩ := spansFrom_append_gap b.isBlank_gap b.gap_ne_nil b.back hlast h hapart
  -- The second line is read from its own first inked character on, and that many characters further to the left.
  have hmoved : spansFrom (b.front.length + b.gap.length) b.back =
      spansFrom (blanksBefore b.back + (b.front ++ b.gap).length) (b.back.drop (blanksBefore b.back)) := by
    have hblank : IsUnmarked (b.back.takeWhile isBlank) := isUnmarked_of_blank fun c hc => List.mem_takeWhile_imp hc
    have hpassed := spansFrom_append hblank (b.front.length + b.gap.length) (b.back.dropWhile isBlank)
    rw [List.takeWhile_append_dropWhile] at hpassed
    rw [hpassed, drop_blanksBefore, List.length_append, Nat.add_comm]
    rfl
  rw [hmoved, spansFrom_moveRight] at hspans hback
  exact ⟨hspans, hfront, Option.map_eq_none_iff.1 hback⟩

end LineBreak

end Traceability.Document
