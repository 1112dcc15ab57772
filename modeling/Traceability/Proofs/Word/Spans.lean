import Traceability.Proofs.Document.Escapes
import Traceability.Proofs.Identifier
import Traceability.Proofs.Text.Spacing
import Traceability.Proofs.Word.Phrases
import Traceability.Proofs.Word.Runs
set_option autoImplicit false

/-!
# Spans under a cursor

The reader of a line and a cursor look for emphasis in two searches of their own, and only the reader minds backslashes.
Up to the first escaped asterisk both find the same.  Behind it a cursor still denotes the text of a span if its own
search happens to meet that text, or if it meets nothing there and the text is a run of identifier characters.
-/

namespace Traceability

open Text Document

/-! ## Where phrases stand -/

section Phrases

variable {place : Nat} {text : List Char}

/-- Each phrase stands in the text in which it is found. -/
theorem stands_of_mem_phrasesFrom {s : Span} (h : s ∈ phrasesFrom place text) : Stands place text s.start s.source := by
  fun_induction phrasesFrom place text with
  | case1 => cases h
  | case2 place c rest hc ih => exact (ih h).append_left [c]
  | case3 => cases h
  | case4 place c rest hc kind inner _ hinked text after hbreak _ phrase ih =>
    obtain rfl : c = '*' := Decidable.of_not_not hc
    rw [eq_source_append_of_breakOn place hbreak]
    rcases List.mem_cons.1 h with rfl | h
    · exact ⟨[], after, rfl, rfl⟩
    · have hlater := ih h
      rw [← phrase.length_source] at hlater
      exact hlater.append_left phrase.source
  | case5 place c rest hc kind inner _ hblank ih =>
    obtain rfl : c = '*' := Decidable.of_not_not hc
    rw [← Emphasis.marker_append_opening rest]
    exact (ih h).append_left kind.marker

/-- The phrases of a text stand one behind the other. -/
theorem pairwise_phrasesFrom (place : Nat) (text : List Char) :
    (phrasesFrom place text).Pairwise fun s t => s.stop ≤ t.start := by
  fun_induction phrasesFrom place text with
  | case1 => exact List.Pairwise.nil
  | case2 place c rest hc ih => exact ih
  | case3 => exact List.Pairwise.nil
  | case4 place c rest hc kind inner _ hinked text after hbreak _ phrase ih =>
    exact List.pairwise_cons.2 ⟨fun t ht => (stands_of_mem_phrasesFrom ht).place_le, ih⟩
  | case5 place c rest hc kind inner _ hblank ih => exact ih

/-- What stands between the markers of a phrase does not begin with a blank; it may be nothing at all. -/
theorem startsInked_of_mem_phrasesFrom {s : Span} (h : s ∈ phrasesFrom place text) (hne : s.text ≠ []) :
    startsInked s.text = true := by
  fun_induction phrasesFrom place text with
  | case1 => cases h
  | case2 place c rest hc ih => exact ih h
  | case3 => cases h
  | case4 place c rest hc kind inner _ hinked text after hbreak _ phrase ih =>
    rcases List.mem_cons.1 h with rfl | h
    · obtain ⟨d, others, htext⟩ := List.exists_cons_of_ne_nil hne
      change text = d :: others at htext
      rw [breakOn_eq_append hbreak, htext] at hinked
      change startsInked text = true
      rw [htext]
      exact hinked
    · exact ih h
  | case5 place c rest hc kind inner _ hblank ih => exact ih h

end Phrases

/-! ## Escaped asterisks -/

/-- Of the first `length` characters of the text, no asterisk is taken out of consideration. -/
def NoneEscaped (length : Nat) (text : List Char) : Prop :=
  ∀ i < length, text[i]? = some '*' → protectsNext (text.take i) = false

instance (length : Nat) (text : List Char) : Decidable (NoneEscaped length text) :=
  inferInstanceAs (Decidable (∀ i < length, text[i]? = some '*' → protectsNext (text.take i) = false))

namespace NoneEscaped

variable {length place stop : Nat} {text : List Char}

theorem mono {shorter : Nat} (h : NoneEscaped length text) (hle : shorter ≤ length) : NoneEscaped shorter text :=
  fun i hi => h i (hi.trans_le hle)

/-- What stands behind the front of a text does not depend on that front. -/
theorem of_append (front : List Char) (h : NoneEscaped (front.length + length) (front ++ text))
    (hfront : protectsNext front = false) : NoneEscaped length text := by
  intro i hi hasterisk
  have hlater := h (front.length + i) (Nat.add_lt_add_left hi _)
  rw [List.getElem?_append_right (Nat.le_add_right _ _), Nat.add_sub_cancel_left, List.take_length_add_append,
    protectsNext_append hfront] at hlater
  exact hlater hasterisk

/-- The same for a text that stands at a place of its line. -/
theorem behind (front : List Char) (h : NoneEscaped (stop - place) (front ++ text))
    (hfront : protectsNext front = false) (hle : place + front.length ≤ stop) :
    NoneEscaped (stop - (place + front.length)) text :=
  of_append front (h.mono (by omega)) hfront

/-- A backslash in front of such a text escapes something else. -/
theorem ne_asterisk {c : Char} (h : NoneEscaped length ('\\' :: c :: text)) (hlt : 1 < length) : c ≠ '*' := by
  rintro rfl
  exact absurd (h 1 hlt rfl) (by simp [protectsNext])

end NoneEscaped

/-- The first closing marker is the first one that counts, if no asterisk in front of it is escaped. -/
theorem breakOn_of_breakOnUnescaped {kind : Emphasis} {s text after : List Char}
    (h : breakOnUnescaped kind.marker s = some (text, after)) (hfree : NoneEscaped text.length s) :
    breakOn kind.marker s = some (text, after) := by
  fun_induction breakOnUnescaped kind.marker s generalizing text with
  | case1 => cases h
  | case2 => cases h
  | case3 c rest ih =>
    obtain ⟨⟨text, after⟩, hrest, heq⟩ := Option.map_eq_some_iff.1 h
    obtain ⟨rfl, rfl⟩ := Prod.mk.inj heq
    have hc := hfree.ne_asterisk (Nat.succ_lt_succ (Nat.succ_pos _))
    have hlater : NoneEscaped text.length rest :=
      NoneEscaped.of_append ['\\', c] (hfree.mono (Nat.add_comm 2 _).le) (protectsNext_escape c)
    rw [breakOn, isPrefixOf_marker_of_ne kind (by decide), breakOn, isPrefixOf_marker_of_ne kind hc, ih hrest hlater]
    rfl
  | case4 c rest _ _ hprefix =>
    rw [breakOn, if_pos hprefix]
    exact h
  | case5 c rest hlone hescape hprefix ih =>
    obtain ⟨⟨text, after⟩, hrest, heq⟩ := Option.map_eq_some_iff.1 h
    obtain ⟨rfl, rfl⟩ := Prod.mk.inj heq
    have hlater : NoneEscaped text.length rest :=
      NoneEscaped.of_append [c] (hfree.mono (Nat.add_comm 1 _).le)
        (protectsNext_concat [] (ne_backslash hlone hescape))
    rw [breakOn, if_neg hprefix, ih hrest hlater]
    rfl

/-- A cursor finds each span of which no asterisk, and none in front of it, is escaped. -/
theorem mem_phrasesFrom_of_mem_spansFrom {place : Nat} {text : List Char} {s : Span}
    (h : s ∈ (spansFrom place text).spans) (hfree : NoneEscaped (s.stop - place) text) : s ∈ phrasesFrom place text := by
  fun_induction spansFrom place text with
  | case1 => cases h
  | case2 => cases h
  | case3 place c rest ih =>
    have hplace : place + 2 ≤ s.start := (stands_of_mem_spansFrom h).place_le
    have hstop := s.start_le_stop
    have hc := hfree.ne_asterisk (by omega)
    rw [phrasesFrom_cons_of_ne (by decide), phrasesFrom_cons_of_ne hc]
    exact ih h (NoneEscaped.behind ['\\', c] hfree (protectsNext_escape c) (hplace.trans hstop))
  | case4 place c rest hlone hescape hc ih =>
    have hplace := (stands_of_mem_spansFrom h).place_le
    have hfront := protectsNext_concat [] (ne_backslash hlone hescape)
    rw [phrasesFrom_cons_of_ne hc]
    exact ih h (NoneEscaped.behind [c] hfree hfront (hplace.trans s.start_le_stop))
  | case5 => cases h
  | case6 place c rest _ _ hc kind inner _ hinked text after hbreak _ span later ih =>
    obtain rfl : c = '*' := Decidable.of_not_not hc
    have hsource := span.length_source
    have hle : span.stop ≤ s.stop := by
      rcases List.mem_cons.1 h with rfl | h
      · exact le_refl _
      · exact (stands_of_mem_spansFrom h).place_le.trans s.start_le_stop
    have hinner : NoneEscaped text.length inner := by
      refine NoneEscaped.of_append kind.marker ?_ (protectsNext_marker [] kind)
      rw [Emphasis.marker_append_opening]
      refine hfree.mono ?_
      have hlength : span.stop = place + kind.marker.length + text.length + kind.marker.length := rfl
      omega
    rw [phrasesFrom_asterisk_of_breakOn place hinked (breakOn_of_breakOnUnescaped hbreak hinner)]
    rcases List.mem_cons.1 h with rfl | h
    · exact List.mem_cons_self
    · rw [eq_source_append place hbreak] at hfree
      have hbehind := hfree.behind span.source (protectsNext_source span) (hsource.le.trans hle)
      exact List.mem_cons_of_mem _ (ih h (hsource ▸ hbehind))
  | case7 place c rest _ _ hc kind inner _ hblank ih =>
    obtain rfl : c = '*' := Decidable.of_not_not hc
    have hplace := (stands_of_mem_spansFrom h).place_le
    rw [phrasesFrom_asterisk_of_blank place (Bool.eq_false_iff.2 hblank)]
    rw [← Emphasis.marker_append_opening rest] at hfree
    exact ih h (hfree.behind kind.marker (protectsNext_marker [] kind) (hplace.trans s.start_le_stop))

/-! ## Texts between markers -/

/-- A phrase that begins with no blank is found from its opening marker on. -/
theorem phraseWord?_of_startsInked (line : Line) {s : Span} (h : startsInked s.text = true) :
    phraseWord? line s = some ⟨utf8Length (line.take s.innerStart), trim s.text⟩ := by
  have hblanks : s.text.takeWhile isBlank = [] := by
    obtain ⟨c, rest, htext, hc⟩ := startsInked_iff.1 h
    rw [htext, List.takeWhile_cons_of_neg (by simp [hc])]
  unfold phraseWord? trimmedWord?
  rw [hblanks]
  split
  · next hnone => exact absurd hnone (ne_nil_of_startsInked (trim_of_startsInked h).2)
  · rfl

/-- Up to the next asterisk, what follows a text without blanks at its ends tells how many blanks it ends with. -/
theorem eq_of_trim_eq {s t later later' : List Char} (hs : startsInked s = true) (ht : startsInked t = true)
    (htrim : trim s = trim t) (h : s ++ '*' :: later = t ++ '*' :: later') : s = t := by
  have hsplit := dropEndWhile_append_eq isBlank s
  have hsplit' := dropEndWhile_append_eq isBlank t
  rw [← (trim_of_startsInked hs).1] at hsplit
  rw [← (trim_of_startsInked ht).1, ← htrim] at hsplit'
  have hblank (u : List Char) : ∀ c ∈ (u.reverse.takeWhile isBlank).reverse, isBlank c = true :=
    fun c hc => List.mem_takeWhile_imp (List.mem_reverse.1 hc)
  have hstop (more : List Char) : ∀ c ∈ ('*' :: more).head?, isBlank c = false := by
    intro c hc
    obtain rfl := Option.some.inj hc
    decide
  rw [← hsplit, ← hsplit', List.append_assoc, List.append_assoc, List.append_cancel_left_eq] at h
  have hgap := congrArg (List.takeWhile isBlank) h
  rw [takeWhile_append_eq_left (hblank s) (hstop later), takeWhile_append_eq_left (hblank t) (hstop later')] at hgap
  rw [← hsplit, hgap, hsplit']

/-! ## Cursors on spans -/

/-- A cursor anywhere between the markers of the span denotes its text, without blanks at both ends. -/
def IsDenoted (line : Line) (s : Span) : Prop :=
  ∀ k, s.innerStart ≤ k → k ≤ s.innerStop →
    wordAt line (utf8Length (line.take k)) = .word ⟨utf8Length (line.take s.innerStart), trim s.text⟩

/-- The search of a cursor finds the text of the span, perhaps between markers of the other kind. -/
def IsPhrase (line : Line) (s : Span) : Prop := ∃ p ∈ phrasesOf line, p.innerStart = s.innerStart ∧ p.text = s.text

/-- No phrase hides the text of the span, which is a run of identifier characters and has no dots to lose. -/
structure IsBareRun (line : Line) (s : Span) : Prop where
  isIdentifierChar_text : ∀ c ∈ s.text, isIdentifierChar c = true
  head?_ne_dot : s.text.head? ≠ some '.'
  getLast?_ne_dot : s.text.getLast? ≠ some '.'
  isUncovered : ∀ k, s.innerStart ≤ k → k ≤ s.innerStop →
    ((phrasesOf line).find? (touches line (utf8Length (line.take k)))).bind (phraseWord? line) = none

theorem wordAt_take_eq_word_iff (line : Line) (k : Nat) (w : Word) :
    wordAt line (utf8Length (line.take k)) = .word w ↔
      (((phrasesOf line).find? (touches line (utf8Length (line.take k)))).bind (phraseWord? line)).or
        (runAround? (line.take k) (line.drop k)) = some w := by
  have hword := wordAt_eq (line.take k) (line.drop k)
  rw [List.take_append_drop] at hword
  rw [hword]
  generalize Option.or _ _ = found
  cases found with
  | none => simp
  | some v => simp

/-- A text between markers has an asterisk on both of its sides, so it can be cut out of its line. -/
theorem exists_asterisks_of_stands {line : Line} {s : Span} (h : Stands 0 line s.start s.source) :
    ∃ before after, line = before ++ s.text ++ '*' :: after ∧ s.innerStart = before.length ∧
      before.getLast? = some '*' ∧ line.take s.innerStart = before ∧ line.drop s.innerStart = s.text ++ '*' :: after := by
  obtain ⟨front, back, hfront, hstart⟩ := h
  rw [Nat.zero_add] at hstart
  obtain ⟨lead, hlast⟩ := exists_marker_eq_concat s.kind
  obtain ⟨trail, hfirst⟩ := exists_marker_eq_cons s.kind
  have hline : line = front ++ s.kind.marker ++ s.text ++ '*' :: (trail ++ back) := by
    have hafter : '*' :: (trail ++ back) = s.kind.marker ++ back := by rw [hfirst, List.cons_append]
    rw [hfront, hafter]
    simp only [Span.source, List.append_assoc]
  have hplace : s.innerStart = (front ++ s.kind.marker).length := by
    rw [List.length_append, ← hstart]
    rfl
  refine ⟨front ++ s.kind.marker, trail ++ back, hline, hplace, ?_, ?_, ?_⟩
  · rw [hlast, ← List.append_assoc, List.getLast?_concat]
  · rw [hplace, hline, List.append_assoc, List.take_left]
  · rw [hplace, hline, List.append_assoc _ s.text, List.drop_left]

theorem isIdentifierChar_asterisk : isIdentifierChar '*' = false := by decide

theorem isRun_of_asterisks {front back run : List Char} (hrun : ∀ c ∈ run, isIdentifierChar c = true)
    (hback : ∀ c ∈ back.getLast?, isIdentifierChar c = false) (hfront : front.getLast? = some '*') (after : List Char) :
    IsRun (front ++ back) run ('*' :: after) := by
  refine ⟨hrun, ?_, ?_⟩
  · intro c hc
    rw [List.getLast?_append, hfront] at hc
    cases hlast : back.getLast? with
    | none =>
      rw [hlast] at hc
      obtain rfl := Option.some.inj hc
      exact isIdentifierChar_asterisk
    | some d =>
      rw [hlast] at hc
      obtain rfl := Option.some.inj hc
      exact hback d hlast
  · intro c hc
    obtain rfl := Option.some.inj hc
    exact isIdentifierChar_asterisk

/-- If the run in front of an asterisk is found where the text behind another one begins, it is all of that text. -/
theorem of_runAround?_eq_some {before text after word : List Char} (hlast : before.getLast? = some '*')
    (h : runAround? (before ++ text) ('*' :: after) = some ⟨utf8Length before, word⟩) :
    (∀ c ∈ text, isIdentifierChar c = true) ∧ text.head? ≠ some '.' ∧ dropEndWhile (· == '.') text = word := by
  obtain ⟨front, run, rfl, hrun, hfront⟩ : ∃ front run, text = front ++ run ∧
      (∀ c ∈ run, isIdentifierChar c = true) ∧ ∀ c ∈ front.getLast?, isIdentifierChar c = false :=
    ⟨dropEndWhile isIdentifierChar text, (text.reverse.takeWhile isIdentifierChar).reverse,
      (dropEndWhile_append_eq _ _).symm, fun c hc => List.mem_takeWhile_imp (List.mem_reverse.1 hc),
      getLast?_dropEndWhile _ _⟩
  have hisRun : IsRun (before ++ front) (run ++ []) ('*' :: after) :=
    (List.append_nil run).symm ▸ isRun_of_asterisks hrun hfront hlast after
  have hfound := runAround?_append hisRun
  rw [List.append_assoc, List.nil_append, h, List.append_nil] at hfound
  obtain ⟨hplace, rfl⟩ := Word.mk.inj (eq_of_runWord?_eq_some hfound.symm)
  rw [utf8Length_append] at hplace
  obtain rfl : front = [] := eq_nil_of_utf8Length_eq_zero (by omega)
  have hdots : run.takeWhile (· == '.') = [] := eq_nil_of_utf8Length_eq_zero (by omega)
  have hkept : run.dropWhile (· == '.') = run := by
    have hsplit := List.takeWhile_append_dropWhile (p := (· == '.')) (l := run)
    rwa [hdots, List.nil_append] at hsplit
  rw [List.nil_append, hkept]
  exact ⟨hrun, (dropWhile_dot_eq_self_iff run).1 hkept, rfl⟩

section Span

variable {line : Line} {s : Span} (hs : s ∈ (spansOf line 0).spans) (hinked : trim s.text ≠ [])

include hs

theorem stands_of_mem_spansOf : Stands 0 line s.start s.source := stands_of_mem_spansFrom hs

/-- Without phrases, a cursor right behind the text of the span sees the run in front of it. -/
theorem isBareRun_of_isDenoted (h : IsDenoted line s)
    (hfree : ∀ k, s.innerStart ≤ k → k ≤ s.innerStop →
      ((phrasesOf line).find? (touches line (utf8Length (line.take k)))).bind (phraseWord? line) = none) :
    IsBareRun line s := by
  obtain ⟨before, after, hline, hstart, hlast, hbefore, -⟩ := exists_asterisks_of_stands (stands_of_mem_spansOf hs)
  have hle : s.innerStart ≤ s.innerStop := Nat.le_add_right _ _
  have hstop : s.innerStop = (before ++ s.text).length := by
    unfold Span.innerStop
    rw [hstart, List.length_append]
  have htake : line.take s.innerStop = before ++ s.text := by rw [hline, hstop, List.take_left]
  have hdrop : line.drop s.innerStop = '*' :: after := by rw [hline, hstop, List.drop_left]
  have hword := (wordAt_take_eq_word_iff line s.innerStop _).1 (h _ hle (le_refl _))
  rw [hfree _ hle (le_refl _), Option.none_or, htake, hdrop, hbefore] at hword
  obtain ⟨hrun, hhead, htrim⟩ := of_runAround?_eq_some hlast hword
  have hkept : trim s.text = s.text :=
    trim_eq_self fun c hc => isBlank_eq_false_of_isIdentifierChar (hrun c hc)
  rw [hkept] at htrim
  exact ⟨hrun, hhead, (dropEndWhile_dot_eq_self_iff s.text).1 htrim, hfree⟩

include hinked

theorem startsInked_of_mem_spansOf : startsInked s.text = true :=
  startsInked_of_mem_spansFrom hs fun hnone => hinked (by rw [hnone]; rfl)

theorem isDenoted_of_isPhrase (h : IsPhrase line s) : IsDenoted line s := by
  obtain ⟨p, hp, hstart, htext⟩ := h
  have hstop : p.innerStop = s.innerStop := by
    unfold Span.innerStop
    rw [hstart, htext]
  have hline : p.start < line.length := by
    obtain ⟨front, back, hsplit, hplace⟩ := stands_of_mem_phrasesFrom hp
    have hpos := List.length_pos_iff.2 (source_ne_nil p)
    rw [hsplit, List.length_append, List.length_append]
    omega
  have hpinked : startsInked p.text = true := htext ▸ startsInked_of_mem_spansOf hs hinked
  intro k hle hge
  have hfind : (phrasesOf line).find? (touches line (utf8Length (line.take k))) = some p :=
    find?_touches (pairwise_phrasesFrom 0 line) hp hline (utf8Length_take_le line (hstart.trans_le hle))
      (utf8Length_take_le line (hge.trans_eq hstop.symm))
  rw [wordAt_take_eq_word_iff, hfind, Option.bind_some, phraseWord?_of_startsInked line hpinked, Option.some_or, hstart,
    htext]

theorem isDenoted_of_isBareRun (h : IsBareRun line s) : IsDenoted line s := by
  obtain ⟨before, after, hline, hstart, hlast, hbefore, -⟩ := exists_asterisks_of_stands (stands_of_mem_spansOf hs)
  have hne : s.text ≠ [] := fun hnone => hinked (by rw [hnone]; rfl)
  have htrim : trim s.text = s.text :=
    trim_eq_self fun c hc => isBlank_eq_false_of_isIdentifierChar (h.isIdentifierChar_text c hc)
  intro k hle hge
  -- The cursor cuts the text of the span.
  obtain ⟨first, second, htext, hfirst⟩ : ∃ first second, s.text = first ++ second ∧ k = (before ++ first).length := by
    refine ⟨s.text.take (k - before.length), s.text.drop (k - before.length), (List.take_append_drop _ _).symm, ?_⟩
    unfold Span.innerStop at hge
    rw [List.length_append, List.length_take]
    omega
  have hsplit : line = (before ++ first) ++ (second ++ '*' :: after) := by
    rw [hline, htext]
    simp only [List.append_assoc]
  have hrun : IsRun before (first ++ second) ('*' :: after) :=
    List.append_nil before ▸ isRun_of_asterisks (htext ▸ h.isIdentifierChar_text) (fun _ hc => by cases hc) hlast after
  have htake : line.take k = before ++ first := by rw [hsplit, hfirst, List.take_left]
  have hdrop : line.drop k = second ++ '*' :: after := by rw [hsplit, hfirst, List.drop_left]
  rw [wordAt_take_eq_word_iff, h.isUncovered k hle hge, Option.none_or, htake, hdrop, runAround?_append hrun, ← htext,
    runWord?_of_ne_dot hne h.head?_ne_dot h.getLast?_ne_dot, hbefore, htrim]

/-- A phrase that is found where the text of the span begins, and for the same word, has that text. -/
theorem isPhrase_of_phraseWord? {p : Span} (hp : p ∈ phrasesOf line)
    (h : phraseWord? line p = some ⟨utf8Length (line.take s.innerStart), trim s.text⟩) : IsPhrase line s := by
  have hpinked : startsInked p.text = true := by
    refine startsInked_of_mem_phrasesFrom hp fun hnone => ?_
    unfold phraseWord? at h
    rw [hnone] at h
    cases h
  rw [phraseWord?_of_startsInked line hpinked] at h
  obtain ⟨hbyte, htrim⟩ := Word.mk.inj (Option.some.inj h)
  obtain ⟨before, after, hline, hstart, -, -, hdrop⟩ := exists_asterisks_of_stands (stands_of_mem_spansOf hs)
  obtain ⟨before', after', hline', hstart', -, -, hdrop'⟩ := exists_asterisks_of_stands (stands_of_mem_phrasesFrom hp)
  have hplace : p.innerStart = s.innerStart := by
    refine eq_of_utf8Length_take_eq ?_ ?_ hbyte
    · rw [hstart', hline', List.append_assoc, List.length_append]
      exact Nat.le_add_right _ _
    · rw [hstart, hline, List.append_assoc, List.length_append]
      exact Nat.le_add_right _ _
  rw [← hplace, hdrop'] at hdrop
  exact ⟨p, hp, hplace, eq_of_trim_eq hpinked (startsInked_of_mem_spansOf hs hinked) htrim hdrop⟩

theorem isPhrase_or_isBareRun_of_isDenoted (h : IsDenoted line s) : IsPhrase line s ∨ IsBareRun line s := by
  by_cases hfree : ∀ k, s.innerStart ≤ k → k ≤ s.innerStop →
      ((phrasesOf line).find? (touches line (utf8Length (line.take k)))).bind (phraseWord? line) = none
  · exact .inr (isBareRun_of_isDenoted hs h hfree)
  · push Not at hfree
    obtain ⟨k, hle, hge, hsome⟩ := hfree
    obtain ⟨w, hw⟩ := Option.ne_none_iff_exists'.1 hsome
    obtain ⟨p, hp, hword⟩ := Option.bind_eq_some_iff.1 hw
    have hdenoted := (wordAt_take_eq_word_iff line k _).1 (h k hle hge)
    rw [hw, Option.some_or] at hdenoted
    exact .inl (isPhrase_of_phraseWord? hs hinked (List.mem_of_find?_eq_some hp) (hword.trans hdenoted))

/-- A cursor denotes the text of a span if no asterisk of the span, nor one in front of it, is escaped.  In general it
does so if its own search finds that text, or finds nothing there and the text is a run of identifier characters; and
only then. -/
theorem isDenoted_of_mem_spansOf :
    (NoneEscaped s.stop line → IsDenoted line s) ∧ (IsDenoted line s ↔ IsPhrase line s ∨ IsBareRun line s) := by
  refine ⟨fun hfree => ?_, isPhrase_or_isBareRun_of_isDenoted hs hinked, ?_⟩
  · exact isDenoted_of_isPhrase hs hinked ⟨s, mem_phrasesFrom_of_mem_spansFrom hs hfree, rfl, rfl⟩
  · rintro (hphrase | hrun)
    · exact isDenoted_of_isPhrase hs hinked hphrase
    · exact isDenoted_of_isBareRun hs hinked hrun

end Span

/-- An escaped backslash escapes nothing, and what is escaped behind the span does not matter. -/
theorem isDenoted_between_escapes :
    let line := "\\\\*a b* c\\*".toList
    let s : Span := ⟨.italic, 2, "a b".toList⟩
    s ∈ (spansOf line 0).spans ∧ trim s.text ≠ [] ∧ NoneEscaped s.stop line ∧ IsDenoted line s := by
  intro line s
  have hs : s ∈ (spansOf line 0).spans := by decide +kernel
  have hinked : trim s.text ≠ [] := by decide
  have hfree : NoneEscaped s.stop line := by decide
  exact ⟨hs, hinked, hfree, (isDenoted_of_mem_spansOf hs hinked).1 hfree⟩

/-- A literal asterisk opens a phrase for a cursor, which ends where the reader has a span begin. -/
theorem not_isDenoted_behind_escaped_asterisk :
    let line := "\\*x *a*".toList
    let s : Span := ⟨.italic, 4, ['a']⟩
    s ∈ (spansOf line 0).spans ∧ trim s.text ≠ [] ∧
      wordAt line (utf8Length (line.take s.innerStart)) = .word ⟨2, ['x']⟩ ∧ ¬ IsDenoted line s := by
  intro line s
  have hword : wordAt line (utf8Length (line.take s.innerStart)) = .word ⟨2, ['x']⟩ := by decide +kernel
  refine ⟨by decide +kernel, by decide, hword, fun h => ?_⟩
  have hdenoted := h s.innerStart (le_refl _) (Nat.le_add_right _ _)
  rw [hword] at hdenoted
  exact absurd hdenoted (by decide +kernel)

end Traceability
