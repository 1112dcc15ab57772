import Mathlib.Data.List.Basic
import Traceability.Document.Reading
set_option autoImplicit false

/-!
# Reading lines further down

Reading looks at the number of a line only to tell lines apart and to say where something stands.  So the same lines
further down in a document make the same blocks with the same faults, further down by as many lines.

Each function of the reader gets one equation for this, in the order in which they are built on each other.
-/

namespace Traceability

/-! ## Moving down -/

namespace Text

/-- The position some lines further down. -/
def Position.shift (n : Nat) (p : Position) : Position := ⟨p.line + n, p.character⟩

/-- The range some lines further down. -/
def Range.shift (n : Nat) (r : Range) : Range := ⟨r.start.shift n, r.stop.shift n⟩

end Text

namespace Document

open Text

/-- The phrase some lines further down. -/
def Phrase.shift (n : Nat) (p : Phrase) : Phrase := { p with range := p.range.shift n }

/-- The targets some lines further down. -/
def Targets.shift (n : Nat) : Targets → Targets
  | phrase target => phrase (target.shift n)
  | identifiers targets => identifiers (targets.map (Phrase.shift n))

/-- The item some lines further down. -/
def ListItem.shift (n : Nat) : ListItem → ListItem
  | text range => text (range.shift n)
  | link range targets => link (range.shift n) (targets.shift n)

/-- The block some lines further down. -/
def Block.shift (n : Nat) : Block → Block
  | title range phrases => title (range.shift n) (phrases.map (Phrase.shift n))
  | heading level range phrases => heading level (range.shift n) (phrases.map (Phrase.shift n))
  | sentence range => sentence (range.shift n)
  | requirement range id subject => requirement (range.shift n) (id.shift n) (subject.map (Phrase.shift n))
  | list range items => list (range.shift n) (items.map (ListItem.shift n))

/-- The fault some lines further down. -/
def SyntaxFault.shift (n : Nat) (f : SyntaxFault) : SyntaxFault := { f with line := f.line + n }

/-- What was read some lines further down, its value moved by `f`. -/
def Reading.shift {α : Type} (n : Nat) (f : α → α) (r : Reading α) : Reading α :=
  ⟨f r.value, r.faults.map (SyntaxFault.shift n)⟩

/-- The line with a higher number. -/
def NumberedLine.shift (n : Nat) (l : NumberedLine) : NumberedLine := { l with number := l.number + n }

/-- The place some lines further down. -/
def Cursor.shift (n : Nat) (c : Cursor) : Cursor := { c with line := c.line.shift n }

/-- The span some lines further down. -/
def LocatedSpan.shift (n : Nat) (s : LocatedSpan) : LocatedSpan := { s with line := s.line.shift n }

/-- The lines of an item with higher numbers. -/
def ItemLines.shift (n : Nat) (i : ItemLines) : ItemLines := ⟨i.first.shift n, i.rest.map (NumberedLine.shift n)⟩

/-- The chunk some lines further down. -/
def Chunk.shift (n : Nat) : Chunk → Chunk
  | heading level line => heading level (line.shift n)
  | paragraph first rest => paragraph (first.shift n) (rest.map (NumberedLine.shift n))
  | list first rest => list (first.shift n) (rest.map (NumberedLine.shift n))

variable (n : Nat)

/-! ## Places and texts -/

theorem fault_shift (c : Cursor) (cause : FaultCause) (token : Option (List Char)) :
    (c.shift n).fault cause token = (c.fault cause token).shift n := by
  have hline : c.line.number + n + 1 = c.line.number + 1 + n := Nat.add_right_comm _ _ _
  unfold Cursor.fault SyntaxFault.shift
  exact congrArg (fun line => SyntaxFault.mk cause line c.position.character token) hline

theorem inkEnd_shift (first : NumberedLine) (rest : List NumberedLine) :
    inkEnd (first.shift n) (rest.map (NumberedLine.shift n)) = (inkEnd first rest).shift n := by
  unfold inkEnd
  rw [List.getLast?_map, Option.getD_map]
  rfl

theorem rangeBetween_shift (a b : Cursor) :
    rangeBetween (a.shift n) (b.shift n) = (rangeBetween a b).shift n := rfl

/-- Moving all lines leaves the text between two places as it is. -/
theorem textBetween_shift (ls : List NumberedLine) (a b : Cursor) :
    textBetween (ls.map (NumberedLine.shift n)) (a.shift n) (b.shift n) = textBetween ls a b := by
  have hinside :
      ((ls.map (NumberedLine.shift n)).filter fun l =>
          (a.shift n).line.number < l.number && l.number < (b.shift n).line.number).map (fun l => trim l.text) =
        (ls.filter fun l => a.line.number < l.number && l.number < b.line.number).map fun l => trim l.text := by
    rw [List.filter_map, List.map_map]
    congr 1
    apply List.filter_congr
    intro l _
    simp [Cursor.shift, NumberedLine.shift]
  have hsame : (a.shift n).line.number = (b.shift n).line.number ↔ a.line.number = b.line.number :=
    Nat.add_right_cancel_iff
  unfold textBetween
  simp only [hinside, hsame]
  rfl

/-! ## Spans -/

theorem spansOfLine_shift (c : Cursor) :
    spansOfLine (c.shift n) = (spansOfLine c).shift n (List.map (LocatedSpan.shift n)) := by
  have hread : spansOf (c.shift n).line.text (c.shift n).place = spansOf c.line.text c.place := rfl
  unfold spansOfLine Reading.shift
  simp only [hread, List.map_map]
  congr 1
  cases (spansOf c.line.text c.place).unterminated with
  | none => rfl
  | some marker =>
    exact congrArg (fun f => [f]) (fault_shift n ⟨c.line, marker.2⟩ (.unterminated marker.1) (some marker.1.marker))

theorem spansOfLines_shift (cs : List Cursor) :
    spansOfLines (cs.map (Cursor.shift n)) = (spansOfLines cs).shift n (List.map (LocatedSpan.shift n)) := by
  unfold spansOfLines Reading.shift
  simp only [List.flatMap_map, List.map_flatMap, spansOfLine_shift]
  rfl

theorem italicPhrases_shift (spans : List LocatedSpan) :
    italicPhrases (spans.map (LocatedSpan.shift n)) = (italicPhrases spans).map (Phrase.shift n) := by
  unfold italicPhrases
  rw [List.filter_map, List.map_map, List.map_map]
  rfl

/-! ## Titles and headings -/

theorem readContent_shift (l : NumberedLine) :
    readContent (l.shift n) =
      (readContent l).shift n fun content => (content.1.shift n, content.2.map (Phrase.shift n)) := by
  have hspans := spansOfLine_shift n ⟨l, l.contentStart⟩
  have hplace : (⟨l.shift n, (l.shift n).contentStart⟩ : Cursor) = Cursor.shift n ⟨l, l.contentStart⟩ := rfl
  unfold readContent
  simp only [hplace, hspans, Reading.shift, italicPhrases_shift]
  rfl

theorem readHeading_shift (level : Nat) (l : NumberedLine) :
    readHeading level (l.shift n) = (readHeading level l).shift n (Block.shift n) := by
  unfold readHeading
  rw [readContent_shift]
  rfl

/-! ## Paragraphs -/

theorem opensRequirement_shift (first : NumberedLine) (s : LocatedSpan) :
    opensRequirement (first.shift n) (s.shift n) = opensRequirement first s := by
  have hline : decide ((s.shift n).line.number = (first.shift n).number) = decide (s.line.number = first.number) :=
    decide_eq_decide.2 Nat.add_right_cancel_iff
  unfold opensRequirement
  rw [hline]
  rfl

/-- The clause of a requirement, from its id to the keyword. -/
theorem clause_shift (ls : List NumberedLine) (a b : Cursor) :
    (⟨textBetween (ls.map (NumberedLine.shift n)) (a.shift n) (b.shift n),
        rangeBetween (a.shift n) (b.shift n)⟩ : Phrase) =
      Phrase.shift n ⟨textBetween ls a b, rangeBetween a b⟩ := by
  rw [textBetween_shift, rangeBetween_shift]
  rfl

theorem readParagraph_shift (first : NumberedLine) (rest : List NumberedLine) :
    readParagraph (first.shift n) (rest.map (NumberedLine.shift n)) =
      (readParagraph first rest).shift n (Block.shift n) := by
  have hcursors :
      ((first.shift n :: rest.map (NumberedLine.shift n)).map fun l => (⟨l, l.inkStart⟩ : Cursor)) =
        ((first :: rest).map fun l => (⟨l, l.inkStart⟩ : Cursor)).map (Cursor.shift n) := by
    simp only [List.map_cons, List.map_map]
    rfl
  have hlines : first.shift n :: rest.map (NumberedLine.shift n) = (first :: rest).map (NumberedLine.shift n) := rfl
  unfold readParagraph
  simp only [hcursors, spansOfLines_shift, Reading.shift, inkEnd_shift]
  cases (spansOfLines ((first :: rest).map fun l => ⟨l, l.inkStart⟩)).value with
  | nil => rfl
  | cons id others =>
    simp only [List.map_cons, opensRequirement_shift]
    cases opensRequirement first id with
    | false => rfl
    | true =>
      have hfind : (others.map (LocatedSpan.shift n)).find? LocatedSpan.isKeyword =
          (others.find? LocatedSpan.isKeyword).map (LocatedSpan.shift n) := by
        rw [List.find?_map]
        rfl
      simp only [hfind, if_true]
      cases others.find? LocatedSpan.isKeyword with
      | none =>
        simp only [Option.map_none, fault_shift, List.map_append, List.map_cons, List.map_nil]
        rfl
      | some shall =>
        have hclause := clause_shift n (first :: rest) id.stop shall.start
        simp only [Option.map_some]
        exact congrArg (fun clause => Reading.mk (Block.requirement _ _ (some clause)) _) hclause

/-! ## Lists -/

theorem targetFaults_shift (separated : Bool) (s : LocatedSpan) :
    targetFaults separated (s.shift n) = (targetFaults separated s).map (SyntaxFault.shift n) := by
  have hfault (cause : FaultCause) : (s.shift n).start.fault cause (some (s.shift n).span.source) =
      (s.start.fault cause (some s.span.source)).shift n := fault_shift n s.start cause _
  unfold targetFaults
  simp only [hfault, List.map_append]
  congr 1
  · cases separated with
    | false => rfl
    | true => rfl
  · have hspan : (s.shift n).span = s.span := rfl
    rw [hspan]
    cases isIdentifier s.span.text with
    | false => rfl
    | true => rfl

theorem separatedByComma_shift (ls : List NumberedLine) (s t : LocatedSpan) :
    separatedByComma (ls.map (NumberedLine.shift n)) (s.shift n) (t.shift n) = separatedByComma ls s t := by
  have htext := textBetween_shift n ls s.stop t.start
  unfold separatedByComma
  exact congrArg (fun text => decide (trim text = [','])) htext

/-- Faults of pairs of spans move down with the spans. -/
theorem flatMap_zip_shift {f g : LocatedSpan × LocatedSpan → List SyntaxFault}
    (h : ∀ s t, f (s.shift n, t.shift n) = (g (s, t)).map (SyntaxFault.shift n)) (spans later : List LocatedSpan) :
    ((spans.map (LocatedSpan.shift n)).zip (later.map (LocatedSpan.shift n))).flatMap f =
      ((spans.zip later).flatMap g).map (SyntaxFault.shift n) := by
  rw [List.zip_map, List.flatMap_map, List.map_flatMap]
  exact List.flatMap_congr fun pair _ => h pair.1 pair.2

theorem readTargets_shift (start : Cursor) (ls : List NumberedLine) (spans : List LocatedSpan) :
    readTargets (start.shift n) (ls.map (NumberedLine.shift n)) (spans.map (LocatedSpan.shift n)) =
      (readTargets start ls spans).shift n (Targets.shift n) := by
  match spans with
  | [] => exact congrArg (fun f => Reading.mk (Targets.identifiers []) [f]) (fault_shift n start _ _)
  | [first] =>
    have hspan : (first.shift n).span = first.span := rfl
    unfold readTargets
    simp only [List.map_cons, List.map_nil, hspan]
    split
    · rfl
    · rfl
  | first :: second :: others =>
    have hids : (((first :: second :: others).map (LocatedSpan.shift n)).filter fun s =>
          isIdentifier s.span.text).map LocatedSpan.phrase =
        (((first :: second :: others).filter fun s => isIdentifier s.span.text).map LocatedSpan.phrase).map
          (Phrase.shift n) := by
      rw [List.filter_map, List.map_map, List.map_map]
      rfl
    have hfaults (s t : LocatedSpan) :
        targetFaults (separatedByComma (ls.map (NumberedLine.shift n)) (s.shift n) (t.shift n)) (t.shift n) =
          (targetFaults (separatedByComma ls s t) t).map (SyntaxFault.shift n) := by
      rw [separatedByComma_shift, targetFaults_shift]
    unfold readTargets Reading.shift
    simp only [List.map_cons] at hids ⊢
    simp only [hids, targetFaults_shift, List.map_append]
    congr 2
    exact flatMap_zip_shift n hfaults (first :: second :: others) (second :: others)

theorem readItem_shift (item : ItemLines) :
    readItem (item.shift n) = (readItem item).shift n (ListItem.shift n) := by
  have hcursors : ∀ start : Cursor,
      (start.shift n :: (item.shift n).rest.map fun l => (⟨l, l.inkStart⟩ : Cursor)) =
        (start :: item.rest.map fun l => (⟨l, l.inkStart⟩ : Cursor)).map (Cursor.shift n) := by
    intro start
    unfold ItemLines.shift
    simp only [List.map_cons, List.map_map]
    rfl
  have hstart : (⟨(item.shift n).first, item.first.contentStart⟩ : Cursor) =
      Cursor.shift n ⟨item.first, item.first.contentStart⟩ := rfl
  have hlines : (item.shift n).lines = item.lines.map (NumberedLine.shift n) := rfl
  have hend : inkEnd (item.shift n).first (item.shift n).rest = (inkEnd item.first item.rest).shift n :=
    inkEnd_shift n item.first item.rest
  have hbold : ∀ spans : List LocatedSpan, (spans.map (LocatedSpan.shift n)).filter LocatedSpan.isBold =
      (spans.filter LocatedSpan.isBold).map (LocatedSpan.shift n) := by
    intro spans
    rw [List.filter_map]
    rfl
  have htext : (item.shift n).first.text = item.first.text := rfl
  have hcontent : (item.shift n).first.contentStart = item.first.contentStart := rfl
  unfold readItem
  simp only [hcontent, hstart, hcursors, hlines, hend, htext, spansOfLines_shift, Reading.shift, hbold,
    readTargets_shift, rangeBetween_shift]
  cases isLink (item.first.text.drop item.first.contentStart) with
  | false => rfl
  | true =>
    simp only [if_true, List.map_append]
    rfl

theorem ofList_cons (first l : NumberedLine) (rest : List NumberedLine) :
    ItemLines.ofList first (l :: rest) =
      if l.isBullet then ⟨first, []⟩ :: ItemLines.ofList l rest
      else
        match ItemLines.ofList first rest with
        | [] => [⟨first, [l]⟩]
        | item :: others => ⟨item.first, l :: item.rest⟩ :: others := rfl

theorem ofList_shift (first : NumberedLine) (rest : List NumberedLine) :
    ItemLines.ofList (first.shift n) (rest.map (NumberedLine.shift n)) =
      (ItemLines.ofList first rest).map (ItemLines.shift n) := by
  induction rest generalizing first with
  | nil => rfl
  | cons l rest ih =>
    have hbullet : (l.shift n).isBullet = l.isBullet := rfl
    rw [List.map_cons, ofList_cons, ofList_cons, hbullet, ih l, ih first]
    cases l.isBullet with
    | true => rfl
    | false =>
      cases ItemLines.ofList first rest with
      | nil => rfl
      | cons item others => rfl

theorem readList_shift (first : NumberedLine) (rest : List NumberedLine) :
    readList (first.shift n) (rest.map (NumberedLine.shift n)) = (readList first rest).shift n (Block.shift n) := by
  have hitems : ((ItemLines.ofList first rest).map (ItemLines.shift n)).map readItem =
      ((ItemLines.ofList first rest).map readItem).map fun read => read.shift n (ListItem.shift n) := by
    rw [List.map_map, List.map_map]
    exact List.map_congr_left fun item _ => readItem_shift n item
  unfold readList
  simp only [ofList_shift, hitems, inkEnd_shift, Reading.shift, List.map_map, List.flatMap_map, List.map_flatMap]
  simp only [Block.shift, List.map_map]
  rfl

/-! ## Chunks -/

theorem readChunk_shift (c : Chunk) : readChunk (c.shift n) = (readChunk c).shift n (Block.shift n) := by
  cases c with
  | heading level line => exact readHeading_shift n level line
  | paragraph first rest => exact readParagraph_shift n first rest
  | list first rest => exact readList_shift n first rest

theorem ofLines_shift (ls : List NumberedLine) :
    Chunk.ofLines (ls.map (NumberedLine.shift n)) = (Chunk.ofLines ls).map (Chunk.shift n) := by
  have hkind : ∀ l : NumberedLine, (l.shift n).kind = l.kind := fun _ => rfl
  have hcontinues : NumberedLine.continuesList ∘ NumberedLine.shift n = NumberedLine.continuesList := rfl
  have htext : NumberedLine.isText ∘ NumberedLine.shift n = NumberedLine.isText := rfl
  fun_induction Chunk.ofLines ls with
  | case1 => rw [List.map_nil, Chunk.ofLines, List.map_nil]
  | case2 l rest h ih => rw [List.map_cons, Chunk.ofLines, hkind, h, ih]
  | case3 l rest level content h ih =>
    rw [List.map_cons, Chunk.ofLines, hkind, h]
    simp only [ih]
    rfl
  | case4 l rest content h ih =>
    rw [List.map_cons, Chunk.ofLines, hkind, h]
    simp only [List.takeWhile_map, List.dropWhile_map, hcontinues, ih]
    rfl
  | case5 l rest indented h ih =>
    rw [List.map_cons, Chunk.ofLines, hkind, h]
    simp only [List.takeWhile_map, List.dropWhile_map, htext, ih]
    rfl

/-- The same lines further down make the same blocks and faults further down. -/
theorem readBody_shift (ls : List NumberedLine) :
    readBody (ls.map (NumberedLine.shift n)) = (readBody ls).map fun read => read.shift n (Block.shift n) := by
  unfold readBody
  rw [ofLines_shift, List.map_map, List.map_map]
  exact List.map_congr_left fun c _ => readChunk_shift n c

end Document

end Traceability
