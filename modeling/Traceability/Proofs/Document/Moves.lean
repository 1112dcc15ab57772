import Traceability.Proofs.Document.Breaks
import Traceability.Proofs.Document.Shift
import Traceability.Proofs.Document.Targets
set_option autoImplicit false

/-!
# Where things are once a line is broken

When a line of a paragraph is broken, what stands in front of the gap stays where it is, what stands behind it goes to
the next line, and the lines behind go down.  The spans move as wholes and keep their order, since none of them reaches
across the gap.  In the source the gap becomes a line feed; all other characters stay, so between two spans there is the
same as before, if blanks do not count.
-/

namespace Traceability.Document

open Text

/-! ## Spans of a paragraph -/

/-- The spans of a paragraph.  Each of its lines is read from its first inked character on. -/
def spansOfParagraph (ls : List NumberedLine) : Reading (List LocatedSpan) :=
  spansOfLines (ls.map fun l => ⟨l, l.inkStart⟩)

section Spans

variable {ls : List NumberedLine}

theorem of_mem_spansOfParagraph {s : LocatedSpan} (h : s ∈ (spansOfParagraph ls).value) :
    s.line ∈ ls ∧ s.IsWritten ∧ s.span ∈ (spansOf s.line.text s.line.inkStart).spans := by
  obtain ⟨c, hc, hs⟩ := List.mem_flatMap.1 h
  obtain ⟨l, hl, rfl⟩ := List.mem_map.1 hc
  have hwritten := (of_mem_spansOfLine hs).2.1
  obtain ⟨span, hspan, rfl⟩ := List.mem_map.1 hs
  exact ⟨hl, hwritten, hspan⟩

theorem faults_spansOfLine_eq_nil_iff {c : Cursor} :
    (spansOfLine c).faults = [] ↔ (spansOf c.line.text c.place).unterminated = none := by
  unfold spansOfLine
  cases hread : (spansOf c.line.text c.place).unterminated with
  | none => simp [hread]
  | some stopped => simp [hread]

theorem faults_spansOfParagraph_eq_nil_iff :
    (spansOfParagraph ls).faults = [] ↔ ∀ l ∈ ls, (spansOf l.text l.inkStart).unterminated = none := by
  unfold spansOfParagraph spansOfLines
  simp only [List.flatMap_map, List.flatMap_eq_nil_iff, faults_spansOfLine_eq_nil_iff]

/-- Later spans stand on the same line or on later ones. -/
theorem number_le_of_spansOfParagraph {first : NumberedLine} {rest : List NumberedLine}
    (h : IsConsecutive (first :: rest)) {s t : LocatedSpan} {others : List LocatedSpan}
    (hspans : (spansOfParagraph (first :: rest)).value = s :: others) (ht : t ∈ others) :
    s.line.number ≤ t.line.number := by
  have hpairwise : (spansOfParagraph (first :: rest)).value.Pairwise
      fun s t => s.stop.position ≤ t.start.position := pairwise_spansOfLines h
  rw [hspans] at hpairwise
  rcases (List.pairwise_cons.1 hpairwise).1 t ht with hlt | ⟨heq, -⟩
  · exact Nat.le_of_lt hlt
  · exact Nat.le_of_eq heq

theorem stop_le_length {line : Line} {s : Span} (h : s ∈ (spansOf line (blanksBefore line)).spans) :
    s.stop ≤ line.length := by
  have hmem : (⟨⟨0, line⟩, s⟩ : LocatedSpan) ∈ (spansOfLine ⟨⟨0, line⟩, blanksBefore line⟩).value :=
    List.mem_map_of_mem h
  exact (of_mem_spansOfLine hmem).2.1.stop_isOnLine

end Spans

/-! ## Texts with a gap -/

section Gap

variable {front gap : List Char}

/-- The place `i` of a text with a gap behind `front` is not within the gap, and it is the place `j` if a single
character stands there instead of the gap. -/
def MovesTo (front gap : List Char) (i j : Nat) : Prop :=
  (i ≤ front.length ∧ j = i) ∨ (front.length + gap.length ≤ i ∧ j + gap.length = i + 1)

/-- It makes no difference whether a gap or a single blank stands between two parts. -/
theorem cutsAtBlanks_between {α : Type} {f : List Char → List α} (hf : CutsAtBlanks f)
    (hgap : ∀ c ∈ gap, isBlank c = true) (hne : gap ≠ []) {mark : Char} (hmark : isBlank mark = true) (back : List Char)
    {i j i' j' : Nat} (hi : MovesTo front gap i i') (hj : MovesTo front gap j j') :
    f (((front ++ mark :: back).take j').drop i') = f (((front ++ (gap ++ back)).take j).drop i) := by
  have hleft {k : Nat} (h : k ≤ front.length) (more : List Char) : (front ++ more).take k = front.take k :=
    List.take_append_of_le_length h
  rcases hj with ⟨hj, rfl⟩ | ⟨hj, hj'⟩
  · rw [hleft hj, hleft hj]
    rcases hi with ⟨hi, rfl⟩ | ⟨hi, hi'⟩
    · rfl
    · have hpos := List.length_pos_iff.2 hne
      rw [List.drop_of_length_le (by rw [List.length_take]; omega),
        List.drop_of_length_le (by rw [List.length_take]; omega)]
  · obtain ⟨k, rfl⟩ : ∃ k, j = front.length + (gap.length + k) := ⟨j - (front.length + gap.length), by omega⟩
    obtain rfl : j' = front.length + (k + 1) := by omega
    rw [List.take_length_add_append, List.take_length_add_append, List.take_length_add_append, List.take_succ_cons]
    rcases hi with ⟨hi, rfl⟩ | ⟨hi, hi'⟩
    · rw [List.drop_append_of_le_length hi, List.drop_append_of_le_length hi, hf.append_cons hmark,
        hf.append_gap hgap _ hne]
    · obtain ⟨m, rfl⟩ : ∃ m, i = front.length + (gap.length + m) := ⟨i - (front.length + gap.length), by omega⟩
      obtain rfl : i' = front.length + (m + 1) := by omega
      rw [List.drop_length_add_append, List.drop_length_add_append, List.drop_length_add_append, List.drop_succ_cons]

end Gap

theorem offsetIn_shift (n : Nat) (ls : List NumberedLine) (c : Cursor) :
    offsetIn (ls.map (NumberedLine.shift n)) (c.shift n) = offsetIn ls c := by
  have htake : (ls.map (NumberedLine.shift n)).takeWhile (fun l => l.number < (c.shift n).line.number) =
      (ls.takeWhile fun l => l.number < c.line.number).map (NumberedLine.shift n) := by
    rw [List.takeWhile_map]
    congr 2
    funext l
    exact decide_eq_decide.2 Nat.add_lt_add_iff_right
  have hclosed (ls : List NumberedLine) : closedSource (ls.map (NumberedLine.shift n)) = closedSource ls :=
    List.flatMap_map _ _ _
  unfold offsetIn
  rw [htake, hclosed]
  rfl

namespace LineBreak

variable (b : LineBreak) (n : Nat)

/-! ## Lines and places -/

/-- The line as it was, with the lines around it. -/
def unbroken (before after : List NumberedLine) : List NumberedLine := before ++ ⟨n, b.line⟩ :: after

/-- The two parts of the line, with the lines around them, of which those behind have gone down. -/
def broken (before after : List NumberedLine) : List NumberedLine :=
  before ++ ⟨n, b.front⟩ :: ⟨n + 1, b.back⟩ :: after.map (NumberedLine.shift 1)

/-- Where a place is once the line is broken. -/
def move (c : Cursor) : Cursor :=
  if c.line.number < n then c
  else if n < c.line.number then c.shift 1
  else if c.place ≤ b.front.length then ⟨⟨n, b.front⟩, c.place⟩
  else ⟨⟨n + 1, b.back⟩, c.place - (b.front ++ b.gap).length⟩

/-- The place is not within the gap. -/
def IsOutside (c : Cursor) : Prop :=
  c.line.number = n → c.place ≤ b.front.length ∨ (b.front ++ b.gap).length ≤ c.place

/-- Where a span is once the line is broken. -/
def moveSpan (s : LocatedSpan) : LocatedSpan :=
  ⟨(b.move n s.start).line, { s.span with start := (b.move n s.start).place }⟩

section Move

variable {n} {before after : List NumberedLine}

theorem number_lt (h : IsConsecutive (b.unbroken n before after)) : ∀ l ∈ before, l.number < n := fun l hl =>
  (List.pairwise_append.1 h.pairwise_number_lt).2.2 l hl _ List.mem_cons_self

theorem number_gt (h : IsConsecutive (b.unbroken n before after)) : ∀ l ∈ after, n < l.number :=
  (List.pairwise_cons.1 (List.pairwise_append.1 h.pairwise_number_lt).2.1).1

theorem move_of_lt {c : Cursor} (h : c.line.number < n) : b.move n c = c := if_pos h

theorem move_of_gt {c : Cursor} (h : n < c.line.number) : b.move n c = c.shift 1 := by
  unfold move
  rw [if_neg (by omega), if_pos h]

theorem move_front {place : Nat} (h : place ≤ b.front.length) :
    b.move n ⟨⟨n, b.line⟩, place⟩ = ⟨⟨n, b.front⟩, place⟩ := by
  unfold move
  rw [if_neg (Nat.lt_irrefl n), if_neg (Nat.lt_irrefl n), if_pos h]

theorem move_back (place : Nat) :
    b.move n ⟨⟨n, b.line⟩, place + (b.front ++ b.gap).length⟩ = ⟨⟨n + 1, b.back⟩, place⟩ := by
  have hpos := List.length_pos_iff.2 b.gap_ne_nil
  have hbehind : ¬ place + (b.front ++ b.gap).length ≤ b.front.length := by
    rw [List.length_append]
    omega
  unfold move
  rw [if_neg (Nat.lt_irrefl n), if_neg (Nat.lt_irrefl n), if_neg hbehind, Nat.add_sub_cancel]

theorem start_moveSpan (s : LocatedSpan) : (b.moveSpan n s).start = b.move n s.start := rfl

theorem moveSpan_of_lt {s : LocatedSpan} (h : s.line.number < n) : b.moveSpan n s = s := by
  have hmove : b.move n s.start = s.start := b.move_of_lt h
  unfold moveSpan
  rw [hmove]
  rfl

theorem moveSpan_of_gt {s : LocatedSpan} (h : n < s.line.number) : b.moveSpan n s = s.shift 1 := by
  have hmove : b.move n s.start = s.start.shift 1 := b.move_of_gt h
  unfold moveSpan
  rw [hmove]
  rfl

theorem moveSpan_front {s : Span} (h : s ∈ (spansOf b.front (blanksBefore b.front)).spans) :
    b.moveSpan n ⟨⟨n, b.line⟩, s⟩ = ⟨⟨n, b.front⟩, s⟩ := by
  have hstart : s.start ≤ b.front.length :=
    (LocatedSpan.start_place_le_stop_place ⟨⟨n, b.front⟩, s⟩).trans (stop_le_length h)
  have hmove : b.move n (LocatedSpan.start ⟨⟨n, b.line⟩, s⟩) = ⟨⟨n, b.front⟩, s.start⟩ := b.move_front hstart
  unfold moveSpan
  rw [hmove]

theorem moveSpan_back (s : Span) :
    b.moveSpan n ⟨⟨n, b.line⟩, s.moveRight (b.front ++ b.gap).length⟩ = ⟨⟨n + 1, b.back⟩, s⟩ := by
  have hmove : b.move n (LocatedSpan.start ⟨⟨n, b.line⟩, s.moveRight (b.front ++ b.gap).length⟩) =
      ⟨⟨n + 1, b.back⟩, s.start⟩ := b.move_back s.start
  unfold moveSpan
  rw [hmove]
  rfl

end Move

/-! ## Spans -/

section Closed

variable {n} {before after : List NumberedLine} (h : IsConsecutive (b.unbroken n before after))
  (hclosed : (spansOf b.line (blanksBefore b.line)).unterminated = none)

include h hclosed

/-- The spans of the broken lines are those of the unbroken ones, moved. -/
theorem spans_broken :
    (spansOfParagraph (b.broken n before after)).value =
      (spansOfParagraph (b.unbroken n before after)).value.map (b.moveSpan n) := by
  have hbefore : ∀ l ∈ before,
      (spansOfLine ⟨l, l.inkStart⟩).value = (spansOfLine ⟨l, l.inkStart⟩).value.map (b.moveSpan n) := by
    intro l hl
    have hsame : ∀ s ∈ (spansOfLine ⟨l, l.inkStart⟩).value, b.moveSpan n s = s := by
      intro s hs
      apply b.moveSpan_of_lt
      rw [(of_mem_spansOfLine hs).1]
      exact b.number_lt h l hl
    rw [List.map_congr_left hsame, List.map_id']
  have hline : (spansOfLine ⟨⟨n, b.front⟩, blanksBefore b.front⟩).value ++
        (spansOfLine ⟨⟨n + 1, b.back⟩, blanksBefore b.back⟩).value =
      (spansOfLine ⟨⟨n, b.line⟩, blanksBefore b.line⟩).value.map (b.moveSpan n) := by
    obtain ⟨hspans, -, -⟩ := b.spans_line hclosed
    unfold spansOfLine
    simp only [hspans, List.map_append, List.map_map]
    congr 1
    · exact List.map_congr_left fun s hs => (b.moveSpan_front hs).symm
    · exact List.map_congr_left fun s _ => (b.moveSpan_back s).symm
  have hafter : ∀ l ∈ after, (spansOfLine ⟨l.shift 1, (l.shift 1).inkStart⟩).value =
      (spansOfLine ⟨l, l.inkStart⟩).value.map (b.moveSpan n) := by
    intro l hl
    have hsame : ∀ s ∈ (spansOfLine ⟨l, l.inkStart⟩).value, b.moveSpan n s = s.shift 1 := by
      intro s hs
      apply b.moveSpan_of_gt
      rw [(of_mem_spansOfLine hs).1]
      exact b.number_gt h l hl
    rw [List.map_congr_left hsame]
    exact congrArg Reading.value (spansOfLine_shift 1 ⟨l, l.inkStart⟩)
  unfold spansOfParagraph spansOfLines broken unbroken
  simp only [List.map_append, List.map_cons, List.flatMap_append, List.flatMap_cons, List.flatMap_map,
    List.map_flatMap, NumberedLine.inkStart] at hbefore hafter ⊢
  rw [List.flatMap_congr hbefore, List.flatMap_congr hafter, ← List.append_assoc (spansOfLine _).value, hline]

variable {s : LocatedSpan} (hs : s ∈ (spansOfParagraph (b.unbroken n before after)).value)

include hs

theorem moveSpan_mem : b.moveSpan n s ∈ (spansOfParagraph (b.broken n before after)).value := by
  rw [b.spans_broken h hclosed]
  exact List.mem_map_of_mem hs

/-- A span of the unbroken lines stands on another line, in front of the gap or behind it. -/
theorem span_cases :
    s.line.number < n ∨ n < s.line.number ∨
      (∃ span ∈ (spansOf b.front (blanksBefore b.front)).spans, s = ⟨⟨n, b.line⟩, span⟩) ∨
        ∃ span : Span, s = ⟨⟨n, b.line⟩, span.moveRight (b.front ++ b.gap).length⟩ := by
  obtain ⟨hline, -, hspan⟩ := of_mem_spansOfParagraph hs
  rcases List.mem_append.1 hline with hline | hline
  · exact .inl (b.number_lt h _ hline)
  · rcases List.mem_cons.1 hline with hline | hline
    · obtain ⟨line, span⟩ := s
      obtain rfl : line = ⟨n, b.line⟩ := hline
      have hmem : span ∈ (spansOf b.line (blanksBefore b.line)).spans := hspan
      rw [(b.spans_line hclosed).1] at hmem
      rcases List.mem_append.1 hmem with hmem | hmem
      · exact .inr (.inr (.inl ⟨span, hmem, rfl⟩))
      · obtain ⟨original, -, rfl⟩ := List.mem_map.1 hmem
        exact .inr (.inr (.inr ⟨original, rfl⟩))
    · exact .inr (.inl (b.number_gt h _ hline))

/-- A span moves as a whole. -/
theorem stop_moveSpan : (b.moveSpan n s).stop = b.move n s.stop := by
  rcases b.span_cases h hclosed hs with hlt | hgt | ⟨span, hspan, rfl⟩ | ⟨span, rfl⟩
  · rw [b.moveSpan_of_lt hlt]
    exact (b.move_of_lt hlt).symm
  · rw [b.moveSpan_of_gt hgt]
    exact (b.move_of_gt (c := s.stop) hgt).symm
  · rw [b.moveSpan_front hspan]
    exact (b.move_front (stop_le_length hspan)).symm
  · have hstop : LocatedSpan.stop ⟨⟨n, b.line⟩, span.moveRight (b.front ++ b.gap).length⟩ =
        ⟨⟨n, b.line⟩, span.stop + (b.front ++ b.gap).length⟩ :=
      congrArg (Cursor.mk ⟨n, b.line⟩) (span.stop_moveRight _)
    rw [b.moveSpan_back, hstop, b.move_back]
    rfl

/-- Spans neither begin nor end within the gap. -/
theorem isOutside_span : b.IsOutside n s.start ∧ b.IsOutside n s.stop := by
  rcases b.span_cases h hclosed hs with hlt | hgt | ⟨span, hspan, rfl⟩ | ⟨span, rfl⟩
  · exact ⟨fun heq => absurd heq hlt.ne, fun heq => absurd heq hlt.ne⟩
  · exact ⟨fun heq => absurd heq hgt.ne', fun heq => absurd heq hgt.ne'⟩
  · have hstart := LocatedSpan.start_place_le_stop_place ⟨⟨n, b.line⟩, span⟩
    have hstop := stop_le_length hspan
    exact ⟨fun _ => .inl (hstart.trans hstop), fun _ => .inl hstop⟩
  · have hstart : (b.front ++ b.gap).length ≤ (span.moveRight (b.front ++ b.gap).length).start := Nat.le_add_left _ _
    have hstop := LocatedSpan.start_place_le_stop_place ⟨⟨n, b.line⟩, span.moveRight (b.front ++ b.gap).length⟩
    exact ⟨fun _ => .inr hstart, fun _ => .inr (hstart.trans hstop)⟩

end Closed

/-- Each marker of the broken lines is closed if each marker of the unbroken ones is. -/
theorem faults_broken {before after : List NumberedLine}
    (h : (spansOfParagraph (b.unbroken n before after)).faults = []) :
    (spansOfParagraph (b.broken n before after)).faults = [] := by
  rw [faults_spansOfParagraph_eq_nil_iff] at h ⊢
  obtain ⟨-, hfront, hback⟩ := b.spans_line (h ⟨n, b.line⟩ (List.mem_append_right before List.mem_cons_self))
  intro l hl
  rcases List.mem_append.1 hl with hl | hl
  · exact h l (List.mem_append_left _ hl)
  · rcases List.mem_cons.1 hl with rfl | hl
    · exact hfront
    · rcases List.mem_cons.1 hl with rfl | hl
      · exact hback
      · obtain ⟨m, hm, rfl⟩ := List.mem_map.1 hl
        exact h m (List.mem_append_right before (List.mem_cons_of_mem _ hm))

/-! ## Sources -/

section Source

variable {n} {before after : List NumberedLine}

theorem sourceOf_unbroken :
    sourceOf (b.unbroken n before after) =
      (closedSource before ++ b.front) ++ (b.gap ++ (b.back ++ after.flatMap fun m => '\n' :: m.text)) := by
  unfold unbroken
  rw [sourceOf_append_cons, sourceOf_cons]
  simp only [line_eq, List.append_assoc]

theorem sourceOf_broken :
    sourceOf (b.broken n before after) =
      (closedSource before ++ b.front) ++ '\n' :: (b.back ++ after.flatMap fun m => '\n' :: m.text) := by
  unfold broken
  rw [sourceOf_append_cons, sourceOf_cons, List.flatMap_cons, List.flatMap_map, List.append_assoc]
  rfl

section Offset

variable (h : IsConsecutive (b.unbroken n before after))

include h

theorem movesTo_of_mem_before {c : Cursor} (hc : c.line ∈ before) (hon : c.IsOnLine) :
    MovesTo (closedSource before ++ b.front) b.gap (offsetIn (b.unbroken n before after) c)
      (offsetIn (b.broken n before after) (b.move n c)) := by
  have hlt := b.number_lt h _ hc
  have hle := offsetIn_le hc hon
  unfold unbroken broken
  rw [b.move_of_lt hlt, offsetIn_append_of_not_lt (Nat.lt_asymm hlt), offsetIn_append_of_not_lt (Nat.lt_asymm hlt)]
  refine .inl ⟨?_, rfl⟩
  rw [List.length_append]
  omega

theorem movesTo_of_line {place : Nat} (hplace : place ≤ b.front.length ∨ (b.front ++ b.gap).length ≤ place) :
    MovesTo (closedSource before ++ b.front) b.gap (offsetIn (b.unbroken n before after) ⟨⟨n, b.line⟩, place⟩)
      (offsetIn (b.broken n before after) (b.move n ⟨⟨n, b.line⟩, place⟩)) := by
  have hbefore := b.number_lt h
  have hself (n : Nat) (line : Line) : ¬ (NumberedLine.mk n line).number < n := Nat.lt_irrefl n
  have hold : offsetIn (b.unbroken n before after) ⟨⟨n, b.line⟩, place⟩ = (closedSource before).length + place := by
    unfold unbroken
    rw [offsetIn_append hbefore, offsetIn_cons_of_not_lt (hself n b.line)]
  rw [hold]
  unfold broken
  rcases hplace with hplace | hplace
  · rw [b.move_front hplace, offsetIn_append hbefore, offsetIn_cons_of_not_lt (hself n b.front)]
    refine .inl ⟨?_, rfl⟩
    rw [List.length_append]
    exact Nat.add_le_add_left hplace _
  · obtain ⟨k, rfl⟩ := Nat.exists_eq_add_of_le' hplace
    have hnext : (NumberedLine.mk n b.front).number < n + 1 := Nat.lt_succ_self n
    have hearlier : ∀ l ∈ before, l.number < n + 1 := fun l hl => (hbefore l hl).trans hnext
    rw [b.move_back, offsetIn_append hearlier, offsetIn_cons_of_lt hnext,
      offsetIn_cons_of_not_lt (hself (n + 1) b.back)]
    refine .inr ?_
    simp only [List.length_append]
    omega

theorem movesTo_of_gt {c : Cursor} (hgt : n < c.line.number) :
    MovesTo (closedSource before ++ b.front) b.gap (offsetIn (b.unbroken n before after) c)
      (offsetIn (b.broken n before after) (b.move n c)) := by
  have hbefore : ∀ l ∈ before, l.number < c.line.number := fun l hl => (b.number_lt h l hl).trans hgt
  have hnext {m : Nat} (hm : m < c.line.number) : m < (c.shift 1).line.number := hm.trans (Nat.lt_succ_self _)
  have hold : offsetIn (b.unbroken n before after) c =
      (closedSource before).length + (b.line.length + 1 + offsetIn after c) := by
    unfold unbroken
    rw [offsetIn_append hbefore, offsetIn_cons_of_lt hgt]
  have hnew : offsetIn (b.broken n before after) (c.shift 1) =
      (closedSource before).length + (b.front.length + 1 + (b.back.length + 1 + offsetIn after c)) := by
    unfold broken
    rw [offsetIn_append fun l hl => hnext (hbefore l hl), offsetIn_cons_of_lt (hnext hgt),
      offsetIn_cons_of_lt (Nat.succ_lt_succ hgt), offsetIn_shift]
  rw [b.move_of_gt hgt, hold, hnew]
  refine .inr ?_
  unfold line
  simp only [List.length_append]
  omega

end Offset

/-- A place in front of the gap keeps its offset in the source.  Any other place comes closer by the gap, and goes
further by a line feed. -/
theorem movesTo_offsetIn (h : IsConsecutive (b.unbroken n before after)) {c : Cursor}
    (hc : c.line ∈ b.unbroken n before after) (hon : c.IsOnLine) (houtside : b.IsOutside n c) :
    MovesTo (closedSource before ++ b.front) b.gap (offsetIn (b.unbroken n before after) c)
      (offsetIn (b.broken n before after) (b.move n c)) := by
  rcases List.mem_append.1 hc with hc | hc
  · exact b.movesTo_of_mem_before h hc hon
  · rcases List.mem_cons.1 hc with hc | hc
    · obtain ⟨line, place⟩ := c
      obtain rfl : line = ⟨n, b.line⟩ := hc
      exact b.movesTo_of_line h (houtside rfl)
    · exact b.movesTo_of_gt h (b.number_gt h _ hc)

/-- What stands between two spans is the same as before, if blanks do not count. -/
theorem textBetween_broken {α : Type} {f : List Char → List α} (hf : CutsAtBlanks f)
    (h : IsConsecutive (b.unbroken n before after)) (h' : IsConsecutive (b.broken n before after))
    (hclosed : (spansOf b.line (blanksBefore b.line)).unterminated = none) {s t : LocatedSpan}
    (hs : s ∈ (spansOfParagraph (b.unbroken n before after)).value)
    (ht : t ∈ (spansOfParagraph (b.unbroken n before after)).value) (hle : s.line.number ≤ t.line.number)
    (hle' : (b.moveSpan n s).line.number ≤ (b.moveSpan n t).line.number) :
    f (textBetween (b.broken n before after) (b.moveSpan n s).stop (b.moveSpan n t).start) =
      f (textBetween (b.unbroken n before after) s.stop t.start) := by
  obtain ⟨hsline, hswritten, -⟩ := of_mem_spansOfParagraph hs
  obtain ⟨htline, htwritten, -⟩ := of_mem_spansOfParagraph ht
  obtain ⟨hsline', hswritten', -⟩ := of_mem_spansOfParagraph (b.moveSpan_mem h hclosed hs)
  obtain ⟨htline', htwritten', -⟩ := of_mem_spansOfParagraph (b.moveSpan_mem h hclosed ht)
  have hstop := b.movesTo_offsetIn h (c := s.stop) hsline hswritten.stop_isOnLine (b.isOutside_span h hclosed hs).2
  have hstart := b.movesTo_offsetIn h (c := t.start) htline htwritten.start_isOnLine (b.isOutside_span h hclosed ht).1
  have hold : f (textBetween (b.unbroken n before after) s.stop t.start) = _ :=
    cutsAtBlanks_textBetween hf h hsline htline hswritten.stop_isOnLine htwritten.start_isOnLine hle
  have hnew : f (textBetween (b.broken n before after) (b.moveSpan n s).stop (b.moveSpan n t).start) = _ :=
    cutsAtBlanks_textBetween hf h' hsline' htline' hswritten'.stop_isOnLine htwritten'.start_isOnLine hle'
  rw [hold, hnew]
  unfold sourceBetween
  rw [b.stop_moveSpan h hclosed hs, b.start_moveSpan, b.sourceOf_broken, b.sourceOf_unbroken]
  exact cutsAtBlanks_between hf b.isBlank_gap b.gap_ne_nil (by decide) _ hstop hstart

end Source

end LineBreak

end Traceability.Document
