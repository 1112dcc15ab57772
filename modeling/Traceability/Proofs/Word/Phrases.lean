import Mathlib.Data.List.TakeWhile
import Traceability.Proofs.Document.Spans
import Traceability.Proofs.Text.Offsets
import Traceability.Proofs.Text.Ranges
import Traceability.Word
set_option autoImplicit false

/-!
# Phrases under a cursor

A cursor looks for emphasised phrases from the start of its line on, bullets and the text in front of a block included,
and a backslash means nothing to it.  It denotes the first phrase that it touches, and a run of identifier characters if
it touches none.  Where a line has no backslash, its phrases are its spans.
-/

namespace Traceability

open Text Document

/-! ## The phrases of a line -/

/-- The emphasised phrases of the rest of a line, of which the first `place` characters have been read.  Every marker that
no blank follows opens one, and an opening marker without a closing one ends the search. -/
def phrasesFrom (place : Nat) : List Char → List Span
  | [] => []
  | c :: rest =>
    if c ≠ '*' then phrasesFrom (place + 1) rest
    else
      let kind := (Emphasis.opening rest).1
      let inner := (Emphasis.opening rest).2
      have : inner.length ≤ rest.length := Emphasis.length_opening_le rest
      if startsInked inner then
        match h : breakOn kind.marker inner with
        | none => []
        | some (text, after) =>
          have := length_after_le h
          let phrase : Span := ⟨kind, place, text⟩
          phrase :: phrasesFrom phrase.stop after
      else phrasesFrom (place + kind.width) inner
termination_by line => line.length
decreasing_by
  · simp
  all_goals
    have := Emphasis.length_opening_le rest
    simp only [List.length_cons]
    omega

/-- The emphasised phrases of a line. -/
def phrasesOf (line : Line) : List Span := phrasesFrom 0 line

/-- Whether a cursor at a byte offset of the line touches the span, markers included. -/
def touches (line : Line) (byte : Nat) (s : Span) : Bool :=
  utf8Length (line.take s.start) ≤ byte ∧ byte ≤ utf8Length (line.take s.stop)

/-- The phrase without blanks at both ends; none if nothing stands between its markers. -/
def phraseText? (s : Span) : Option (List Char) := if trim s.text = [] then none else some (trim s.text)

theorem map_text_trimmedWord? (start : Nat) (s : Span) : (trimmedWord? start s.text).map Word.text = phraseText? s := by
  unfold trimmedWord? phraseText?
  split
  · next h => rw [if_pos h, Option.map_none]
  · next h => rw [if_neg h, Option.map_some]

/-- A phrase that is closed takes its source off the text. -/
theorem eq_source_append_of_breakOn {rest text after : List Char} (place : Nat)
    (h : breakOn (Emphasis.opening rest).1.marker (Emphasis.opening rest).2 = some (text, after)) :
    '*' :: rest = (Span.mk (Emphasis.opening rest).1 place text).source ++ after := by
  rw [← Emphasis.marker_append_opening rest, breakOn_eq_append h]
  simp only [Span.source, List.append_assoc]

theorem phraseFrom_asterisk_of_blank {rest : List Char} (hblank : startsInked (Emphasis.opening rest).2 = false)
    (byte offset : Nat) :
    phraseFrom byte offset ('*' :: rest) =
      phraseFrom byte (offset + utf8Length (Emphasis.opening rest).1.marker) (Emphasis.opening rest).2 := by
  rw [phraseFrom, if_neg (not_not_intro rfl)]
  simp only [hblank, Bool.false_eq_true, if_false]

theorem phraseFrom_asterisk_of_inked {rest : List Char} (hinked : startsInked (Emphasis.opening rest).2 = true)
    (byte offset : Nat) :
    phraseFrom byte offset ('*' :: rest) =
      (breakOn (Emphasis.opening rest).1.marker (Emphasis.opening rest).2).bind fun (text, after) =>
        let innerStart := offset + utf8Length (Emphasis.opening rest).1.marker
        let stop := innerStart + utf8Length text + utf8Length (Emphasis.opening rest).1.marker
        if offset ≤ byte ∧ byte ≤ stop then trimmedWord? innerStart text else phraseFrom byte stop after := by
  rw [phraseFrom, if_neg (not_not_intro rfl)]
  simp only [hinked, if_true]
  split
  · next hnone => rw [hnone, Option.bind_none]
  · next text after hsome => rw [hsome, Option.bind_some]

/-- The search takes the first phrase that the cursor touches. -/
theorem phraseFrom_eq (byte : Nat) (front rest : List Char) :
    phraseFrom byte (utf8Length front) rest =
      ((phrasesFrom front.length rest).find? (touches (front ++ rest) byte)).bind fun s =>
        trimmedWord? (utf8Length ((front ++ rest).take s.innerStart)) s.text := by
  generalize hplace : front.length = place
  fun_induction phrasesFrom place rest generalizing front with
  | case1 place =>
    rw [phraseFrom]
    rfl
  | case2 place c rest hc ih =>
    have hlater := ih (front ++ [c]) (by rw [List.length_append, hplace]; rfl)
    rw [List.append_assoc, utf8Length_append] at hlater
    rw [phraseFrom, if_pos hc]
    exact hlater
  | case3 place c rest hc kind inner _ hinked hbreak =>
    obtain rfl : c = '*' := Decidable.of_not_not hc
    rw [phraseFrom_asterisk_of_inked hinked, hbreak]
    rfl
  | case4 place c rest hc kind inner _ hinked text after hbreak _ phrase ih =>
    obtain rfl : c = '*' := Decidable.of_not_not hc
    have hsource : '*' :: rest = phrase.source ++ after := eq_source_append_of_breakOn place hbreak
    have hstop : (front ++ phrase.source).length = phrase.stop := by
      rw [List.length_append, hplace]
      exact phrase.length_source
    have hlater := ih (front ++ phrase.source) hstop
    rw [List.append_assoc] at hlater
    rw [phraseFrom_asterisk_of_inked hinked, hbreak, Option.bind_some, hsource]
    generalize hline : front ++ (phrase.source ++ after) = line at hlater ⊢
    -- The offsets that the search adds up are those of the ends of the phrase and its text.
    obtain ⟨htakeStart, htakeInner, _, htakeStop⟩ :=
      phrase.take_eq (hline.symm.trans (List.append_assoc _ _ _).symm) hplace.symm
    have hoffset : utf8Length (front ++ phrase.source) =
        utf8Length front + utf8Length kind.marker + utf8Length text + utf8Length kind.marker := by
      simp only [Span.source, utf8Length_append, phrase]
      omega
    have htouches : touches line byte phrase = true ↔
        utf8Length front ≤ byte ∧
          byte ≤ utf8Length front + utf8Length kind.marker + utf8Length text + utf8Length kind.marker := by
      unfold touches
      rw [decide_eq_true_iff, htakeStart, htakeStop, hoffset]
    rw [List.find?_cons]
    cases htouch : touches line byte phrase with
    | true =>
      have hwithin := htouches.1 htouch
      simp only [Option.bind_some]
      rw [if_pos hwithin, htakeInner, utf8Length_append]
    | false =>
      have houtside := mt htouches.2 (Bool.eq_false_iff.1 htouch)
      rw [hoffset] at hlater
      simp only
      rw [if_neg houtside]
      exact hlater
  | case5 place c rest hc kind inner _ hblank ih =>
    obtain rfl : c = '*' := Decidable.of_not_not hc
    have hlater := ih (front ++ kind.marker) (by rw [List.length_append, hplace]; rfl)
    rw [List.append_assoc, Emphasis.marker_append_opening, utf8Length_append] at hlater
    rw [phraseFrom_asterisk_of_blank (Bool.eq_false_iff.2 hblank)]
    exact hlater

/-- The phrase without blanks at both ends, with the byte offset at which it starts. -/
def phraseWord? (line : Line) (s : Span) : Option Word := trimmedWord? (utf8Length (line.take s.innerStart)) s.text

theorem map_text_phraseWord? (line : Line) (s : Span) : (phraseWord? line s).map Word.text = phraseText? s :=
  map_text_trimmedWord? _ s

/-- A byte offset that cuts its line denotes the first phrase that it touches, if any text stands between its markers,
and the run of identifier characters around the cut otherwise. -/
theorem wordAt_eq (before after : Line) :
    wordAt (before ++ after) (utf8Length before) =
      ((((phrasesOf (before ++ after)).find? (touches (before ++ after) (utf8Length before))).bind
        (phraseWord? (before ++ after))).or (runAround? before after)).elim .nothing .word := by
  have hphrase : phraseFrom (utf8Length before) 0 (before ++ after) =
      ((phrasesOf (before ++ after)).find? (touches (before ++ after) (utf8Length before))).bind
        (phraseWord? (before ++ after)) := phraseFrom_eq (utf8Length before) [] (before ++ after)
  have hinside : ¬ utf8Length (before ++ after) < utf8Length before := by
    rw [utf8Length_append]
    omega
  rw [wordAt, if_neg hinside, splitAtByte?_append, ← hphrase]
  cases phraseFrom (utf8Length before) 0 (before ++ after) with
  | some w => rfl
  | none =>
    simp only [Option.none_or]
    cases runAround? before after with
    | some w => rfl
    | none => rfl

theorem map_text_or (line : Line) (touched : Option Span) (run : Option Word) :
    ((touched.bind (phraseWord? line)).or run).map Word.text = (touched.bind phraseText?).or (run.map Word.text) := by
  have htext : Option.map Word.text ∘ phraseWord? line = phraseText? := funext (map_text_phraseWord? line)
  rw [Option.map_or, Option.map_bind, htext]

/-- The same for a position, of which only the text of the word is asked. -/
theorem wordAtPosition_eq {text : String} {p : Position} {before after : Line}
    (hline : (lines text)[p.line]? = some (before ++ after))
    (hbyte : byteOffset (before ++ after) p.character = utf8Length before) :
    wordAtPosition text p =
      (((phrasesOf (before ++ after)).find? (touches (before ++ after) (utf8Length before))).bind phraseText?).or
        ((runAround? before after).map Word.text) := by
  unfold wordAtPosition
  rw [hline]
  simp only
  rw [hbyte, wordAt_eq, ← map_text_or (before ++ after)]
  generalize Option.or _ _ = found
  cases found with
  | none => rfl
  | some w => rfl

/-! ## Phrases and spans -/

theorem phrasesFrom_cons_of_ne {place : Nat} {c : Char} (hc : c ≠ '*') (rest : List Char) :
    phrasesFrom place (c :: rest) = phrasesFrom (place + 1) rest := by
  rw [phrasesFrom, if_pos hc]

/-- Text without asterisks is passed over. -/
theorem phrasesFrom_append {front : List Char} (h : ∀ c ∈ front, c ≠ '*') (place : Nat) (rest : List Char) :
    phrasesFrom place (front ++ rest) = phrasesFrom (place + front.length) rest := by
  induction front generalizing place with
  | nil => rfl
  | cons c others ih =>
    obtain ⟨hc, hothers⟩ := List.forall_mem_cons.1 h
    rw [List.cons_append, phrasesFrom_cons_of_ne hc, ih hothers, List.length_cons, Nat.add_right_comm, Nat.add_assoc]

/-- Blanks are passed over. -/
theorem phrasesFrom_drop_blanks (place : Nat) {text : List Char} {n : Nat} (h : n ≤ (text.takeWhile isBlank).length) :
    phrasesFrom place text = phrasesFrom (place + n) (text.drop n) := by
  have hfree : ∀ c ∈ text.take n, c ≠ '*' := by
    rintro c hc rfl
    have htake : text.take n <+: text.takeWhile isBlank := by
      refine List.prefix_of_prefix_length_le (List.take_prefix n text) (List.takeWhile_prefix _) ?_
      rw [List.length_take]
      omega
    exact absurd (List.mem_takeWhile_imp (htake.subset hc)) (by decide)
  have hlength : (text.take n).length = n := by
    have hle := (List.takeWhile_prefix isBlank (l := text)).length_le
    rw [List.length_take]
    omega
  have hpassed := phrasesFrom_append hfree place (text.drop n)
  rw [List.take_append_drop, hlength] at hpassed
  exact hpassed

section Asterisk

variable {rest : List Char} (place : Nat)

/-- A bullet is passed over, and so is a literal asterisk. -/
theorem phrasesFrom_asterisk_of_blank (hblank : startsInked (Emphasis.opening rest).2 = false) :
    phrasesFrom place ('*' :: rest) =
      phrasesFrom (place + (Emphasis.opening rest).1.width) (Emphasis.opening rest).2 := by
  rw [phrasesFrom, if_neg (not_not_intro rfl)]
  simp only [hblank, Bool.false_eq_true, if_false]

variable (hinked : startsInked (Emphasis.opening rest).2 = true)

include hinked

theorem phrasesFrom_asterisk_of_breakOn {text after : List Char}
    (hbreak : breakOn (Emphasis.opening rest).1.marker (Emphasis.opening rest).2 = some (text, after)) :
    let phrase : Span := ⟨(Emphasis.opening rest).1, place, text⟩
    phrasesFrom place ('*' :: rest) = phrase :: phrasesFrom phrase.stop after := by
  rw [phrasesFrom, if_neg (not_not_intro rfl)]
  simp only [hinked, if_true]
  split
  · next hnone =>
    rw [hbreak] at hnone
    cases hnone
  · next text' after' hsome =>
    obtain ⟨rfl, rfl⟩ := Prod.mk.inj (Option.some.inj (hbreak.symm.trans hsome))
    rfl

theorem phrasesFrom_asterisk_of_breakOn_eq_none
    (hbreak : breakOn (Emphasis.opening rest).1.marker (Emphasis.opening rest).2 = none) :
    phrasesFrom place ('*' :: rest) = [] := by
  rw [phrasesFrom, if_neg (not_not_intro rfl)]
  simp only [hinked, if_true]
  split
  · rfl
  · next text' after' hsome =>
    rw [hbreak] at hsome
    cases hsome

end Asterisk

/-- What stands behind an opening marker is a part of the text. -/
theorem mem_of_mem_opening {rest : List Char} {c : Char} (h : c ∈ (Emphasis.opening rest).2) : c ∈ '*' :: rest := by
  rw [← Emphasis.marker_append_opening rest]
  exact List.mem_append_right _ h

/-- Escapes make no difference in a text without backslashes. -/
theorem breakOnUnescaped_eq_breakOn {kind : Emphasis} {s : List Char} (h : ∀ c ∈ s, c ≠ '\\') :
    breakOnUnescaped kind.marker s = breakOn kind.marker s := by
  induction s with
  | nil =>
    cases kind with
    | italic => rfl
    | bold => rfl
  | cons c rest ih =>
    obtain ⟨hc, hrest⟩ := List.forall_mem_cons.1 h
    rw [breakOnUnescaped, ih hrest, breakOn]
    · exact fun h => absurd h hc
    · exact fun _ _ h => absurd h hc

/-- On a line without backslashes a cursor sees the spans that are read from it. -/
theorem phrasesFrom_eq_spansFrom {place : Nat} {text : List Char} (h : ∀ c ∈ text, c ≠ '\\') :
    phrasesFrom place text = (spansFrom place text).spans := by
  fun_induction spansFrom place text with
  | case1 => rw [phrasesFrom]
  | case2 => exact absurd rfl (h _ List.mem_cons_self)
  | case3 => exact absurd rfl (h _ List.mem_cons_self)
  | case4 place c rest _ _ hc ih =>
    rw [phrasesFrom_cons_of_ne hc]
    exact ih (List.forall_mem_cons.1 h).2
  | case5 place c rest _ _ hc kind inner _ hinked hbreak =>
    obtain rfl : c = '*' := Decidable.of_not_not hc
    have hinner : ∀ c ∈ inner, c ≠ '\\' := fun c hmem => h c (mem_of_mem_opening hmem)
    rw [breakOnUnescaped_eq_breakOn hinner] at hbreak
    exact phrasesFrom_asterisk_of_breakOn_eq_none place hinked hbreak
  | case6 place c rest _ _ hc kind inner _ hinked text after hbreak _ span later ih =>
    obtain rfl : c = '*' := Decidable.of_not_not hc
    have hinner : ∀ c ∈ inner, c ≠ '\\' := fun c hmem => h c (mem_of_mem_opening hmem)
    have hafter : ∀ c ∈ after, c ≠ '\\' := fun c hmem => hinner c (by
      rw [breakOnUnescaped_eq_append hbreak]
      exact List.mem_append_right _ hmem)
    rw [breakOnUnescaped_eq_breakOn hinner] at hbreak
    rw [phrasesFrom_asterisk_of_breakOn place hinked hbreak, ih hafter]
  | case7 place c rest _ _ hc kind inner _ hblank ih =>
    obtain rfl : c = '*' := Decidable.of_not_not hc
    rw [phrasesFrom_asterisk_of_blank place (Bool.eq_false_iff.2 hblank)]
    exact ih fun c hmem => h c (mem_of_mem_opening hmem)

/-- The first marker behind text without asterisks closes it. -/
theorem breakOn_append {text : List Char} (h : ∀ c ∈ text, c ≠ '*') (kind : Emphasis) (rest : List Char) :
    breakOn kind.marker (text ++ kind.marker ++ rest) = some (text, rest) := by
  induction text with
  | nil =>
    cases kind with
    | italic => rfl
    | bold => rfl
  | cons c others ih =>
    obtain ⟨hc, hothers⟩ := List.forall_mem_cons.1 h
    rw [List.cons_append, List.cons_append, breakOn, isPrefixOf_marker_of_ne kind hc, ih hothers]
    rfl

/-- Text without asterisks between two markers is seen as one phrase, if it does not begin with a blank. -/
theorem phrasesFrom_source_append {kind : Emphasis} {text : List Char} (h : ∀ c ∈ text, c ≠ '*')
    (hinked : startsInked text = true) (place : Nat) (rest : List Char) :
    let phrase : Span := ⟨kind, place, text⟩
    phrasesFrom place (phrase.source ++ rest) = phrase :: phrasesFrom phrase.stop rest := by
  intro phrase
  cases text with
  | nil => cases hinked
  | cons c others =>
    have hbreak := breakOn_append h kind rest
    obtain ⟨later, hmarker, hopening⟩ := exists_opening_eq kind (List.forall_mem_cons.1 h).1
      (others ++ kind.marker ++ rest)
    have hsource : phrase.source ++ rest = '*' :: later := by
      rw [← hmarker]
      simp only [Span.source, phrase, List.append_assoc, List.cons_append]
    have hphrase : breakOn (Emphasis.opening later).1.marker (Emphasis.opening later).2 = some (c :: others, rest) := by
      rw [hopening]
      exact hbreak
    rw [hsource, phrasesFrom_asterisk_of_breakOn place (by rw [hopening]; exact hinked) hphrase, hopening]

/-! ## The phrase that a cursor touches -/

theorem touches_of_le {line : Line} {s : Span} {byte : Nat} (hstart : utf8Length (line.take s.innerStart) ≤ byte)
    (hstop : byte ≤ utf8Length (line.take s.innerStop)) : touches line byte s = true :=
  decide_eq_true ⟨(utf8Length_take_le line (Nat.le_add_right _ _)).trans hstart,
    hstop.trans (utf8Length_take_le line (Nat.le_add_right _ _))⟩

/-- A cursor between the markers of a phrase touches no earlier one. -/
theorem find?_touches {line : Line} {phrases : List Span} (h : phrases.Pairwise fun s t => s.stop ≤ t.start) {s : Span}
    (hs : s ∈ phrases) (hline : s.start < line.length) {byte : Nat}
    (hstart : utf8Length (line.take s.innerStart) ≤ byte) (hstop : byte ≤ utf8Length (line.take s.innerStop)) :
    phrases.find? (touches line byte) = some s := by
  obtain ⟨front, back, rfl⟩ := List.append_of_mem hs
  have hearlier := (List.pairwise_append.1 h).2.2
  have hwidth : s.start < s.innerStart := by
    unfold Span.innerStart Emphasis.width
    cases s.kind with
    | italic => exact Nat.lt_succ_self _
    | bold => exact Nat.lt_add_of_pos_right (Nat.zero_lt_two)
  have hmarker : utf8Length (line.take s.start) < utf8Length (line.take s.innerStart) :=
    utf8Length_take_lt hwidth hline
  have hfront : front.find? (touches line byte) = none := by
    refine List.find?_eq_none.2 fun t ht htouch => ?_
    have hbehind := utf8Length_take_le line (hearlier t ht s List.mem_cons_self)
    have hbyte := (of_decide_eq_true htouch).2
    omega
  rw [List.find?_append, hfront, Option.none_or, List.find?_cons_of_pos (touches_of_le hstart hstop)]

/-! ## Positions -/

/-- A position in a range of a line is a place between the ends of the range. -/
theorem exists_place_of_contains {line : Line} {number i j : Nat} (hi : i ≤ line.length) {p : Position}
    (hp : (Range.onLine number (column line i) (column line j)).contains p = true) :
    p.line = number ∧
      ∃ k ≤ line.length, byteOffset line p.character = utf8Length (line.take k) ∧ i ≤ k ∧ k ≤ j := by
  obtain ⟨k, hk, hbyte, hbefore, hreached⟩ := exists_byteOffset_eq line p.character
  have hwithin : (number < p.line ∨ number = p.line ∧ column line i ≤ p.character) ∧
      (p.line < number ∨ p.line = number ∧ p.character ≤ column line j) := of_decide_eq_true hp
  have hnumber : p.line = number := by omega
  refine ⟨hnumber, k, hk, hbyte, ?_, ?_⟩
  · by_contra hlt
    have hplace := Nat.lt_of_not_le hlt
    have hcolumn := column_lt_column hplace (hplace.trans_le hi)
    have hcol := hreached (hplace.trans_le hi)
    omega
  · by_contra hlt
    have hcol := hbefore j (Nat.lt_of_not_le hlt)
    omega

/-- Where every cursor in a range of a line touches the same phrase, each position in it denotes that phrase. -/
theorem wordAtPosition_of_touches {text : String} {line : Line} {number i j : Nat}
    (hline : (lines text)[number]? = some line) (hi : i ≤ line.length) {p : Position}
    (hp : (Range.onLine number (column line i) (column line j)).contains p = true) {s : Span}
    (hfind : ∀ byte, utf8Length (line.take i) ≤ byte → byte ≤ utf8Length (line.take j) →
      (phrasesOf line).find? (touches line byte) = some s)
    (hinked : trim s.text ≠ []) : wordAtPosition text p = some (trim s.text) := by
  obtain ⟨rfl, k, hk, hbyte, hle, hge⟩ := exists_place_of_contains hi hp
  have htouched := hfind _ (utf8Length_take_le line hle) (utf8Length_take_le line hge)
  obtain ⟨before, after, rfl, rfl⟩ : ∃ before after, line = before ++ after ∧ k = before.length :=
    ⟨line.take k, line.drop k, (List.take_append_drop k line).symm, by rw [List.length_take, min_eq_left hk]⟩
  rw [List.take_left] at hbyte htouched
  rw [wordAtPosition_eq hline hbyte, htouched, Option.bind_some, phraseText?, if_neg hinked, Option.some_or]

end Traceability
