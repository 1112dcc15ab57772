import Traceability.Proofs.Document.Ranges
import Traceability.Proofs.Identifier
import Traceability.Proofs.Text.Lines
set_option autoImplicit false

/-!
# Rows of a well-formed document

A well-formed document has five kinds of lines: its title, blank lines, headings, requirements and links.  A row says
what one of them means; its text says how that is written.  Reading the text of a row gives back what it means, whatever
prose stands around the names and identifiers in it, and finds no fault.
-/

namespace Traceability.Document

open Text

/-! ## What rows are made of -/

/-- The text has no marks and does not reach beyond one line. -/
def IsPlain (text : List Char) : Prop := ∀ c ∈ text, c ≠ '*' ∧ c ≠ '\\' ∧ c ≠ '\r' ∧ c ≠ '\n'

instance (text : List Char) : Decidable (IsPlain text) :=
  List.decidableBAll (fun c => c ≠ '*' ∧ c ≠ '\\' ∧ c ≠ '\r' ∧ c ≠ '\n') text

/-- Prose on one line, without marks. -/
structure Prose where
  text : List Char
  isPlain : IsPlain text

/-- Prose that may stand between two markers, since it begins with no blank. -/
structure Name extends Prose where
  isInked : startsInked text = true

/-- An identifier. -/
structure Label where
  text : List Char
  isIdentifier_text : isIdentifier text = true

/-- The blanks of a line that has nothing else. -/
structure Gap where
  text : List Char
  isBlank_text : ∀ c ∈ text, isBlank c = true ∧ c ≠ '\r' ∧ c ≠ '\n'

/-- A text between two markers. -/
def emphasised (kind : Emphasis) (text : List Char) : List Char := kind.marker ++ text ++ kind.marker

/-- A line of a well-formed document, by what it means. -/
inductive Row where
  | title (before : Prose) (subject : Name)
  | gap (blanks : Gap)
  | heading (name : Name)
  | requirement (id : Label) (before : Prose) (subject : Name) (after : Prose)
  | link (first : Label) (others : List Label)

/-- The targets of a link as they are written, with commas between them. -/
def targetsText (labels : List Label) : List Char :=
  [',', ' '].intercalate (labels.map fun t => emphasised .bold t.text)

/-- The text between the id of a requirement and the keyword. -/
def clauseText (before : Prose) (subject : Name) : List Char := ' ' :: before.text ++ ' ' :: subject.text ++ [' ']

namespace Row

/-- The line as it is written. -/
def text : Row → Line
  | title before subject => ['#', ' '] ++ before.text ++ emphasised .italic subject.text
  | gap blanks => blanks.text
  | heading name => ['#', '#', ' '] ++ emphasised .italic name.text
  | requirement id before subject after =>
    emphasised .bold id.text ++ clauseText before subject ++ emphasised .bold keyword ++ ' ' :: after.text
  | link first others => ['*', ' '] ++ linkWord ++ ' ' :: targetsText (first :: others)

end Row

theorem IsPlain.isUnmarked {text : List Char} (h : IsPlain text) : IsUnmarked text :=
  fun c hc => ⟨(h c hc).1, (h c hc).2.1⟩

theorem IsPlain.isOneLine {text : List Char} (h : IsPlain text) : IsOneLine text := fun c hc => (h c hc).2.2

/-- No identifier has a character that is not plain. -/
theorem Label.isPlain (t : Label) : IsPlain t.text := by
  intro c hc
  have hidentifier := isIdentifierChar_of_mem t.isIdentifier_text hc
  have hmarks : ['*', '\\', '\r', '\n'].all (fun d => !isIdentifierChar d) = true := by decide
  have hne : c ∉ ['*', '\\', '\r', '\n'] := by
    intro hmem
    have hmark := List.all_eq_true.1 hmarks c hmem
    rw [hidentifier] at hmark
    cases hmark
  simpa using hne

theorem isUnmarked_clauseText (before : Prose) (subject : Name) : IsUnmarked (clauseText before subject) := by
  have hblank : IsUnmarked [' '] := by decide
  exact ((hblank.append before.isPlain.isUnmarked).append (hblank.append subject.isPlain.isUnmarked)).append hblank

/-! ## Titles and headings -/

/-- In front of an inked character there are at most as many blanks as characters. -/
theorem blanksBefore_append_cons_le (front : List Char) {c : Char} (hc : isBlank c = false) (rest : List Char) :
    blanksBefore (front ++ c :: rest) ≤ front.length := by
  induction front with
  | nil =>
    unfold blanksBefore
    rw [List.nil_append, List.takeWhile_cons_of_neg (by simp [hc])]
  | cons d others ih =>
    unfold blanksBefore at ih ⊢
    rw [List.cons_append, List.takeWhile_cons]
    split
    · exact Nat.succ_le_succ ih
    · exact Nat.zero_le _

/-- A line of hashes and a blank is a heading. -/
theorem classify_hashes {level : Nat} (hlevel : 1 ≤ level ∧ level ≤ maxLevel) (rest : List Char) :
    let line := List.replicate level '#' ++ ' ' :: rest
    classify line = .heading level (min (level + blanksBefore (' ' :: rest)) (trimEnd line).length) := by
  obtain ⟨k, rfl⟩ : ∃ k, level = k + 1 := ⟨level - 1, by omega⟩
  have hhash : ∀ c ∈ List.replicate (k + 1) '#', (c == '#') = true := by
    intro c hc
    rw [List.eq_of_mem_replicate hc]
    rfl
  have hblank : ∀ c ∈ (' ' :: rest).head?, (c == '#') = false := by
    intro c hc
    obtain rfl := Option.some.inj hc
    rfl
  have hhashes := takeWhile_append_eq_left hhash hblank
  have hafter := dropWhile_append_eq_right hhash hblank
  simp only [List.replicate_succ, List.cons_append] at hhashes hafter ⊢
  have htrim : trimStart ('#' :: (List.replicate k '#' ++ ' ' :: rest)) =
      '#' :: (List.replicate k '#' ++ ' ' :: rest) := rfl
  have hindent : blanksBefore ('#' :: (List.replicate k '#' ++ ' ' :: rest)) = 0 := rfl
  have hinked : startsInked (' ' :: rest) = false := rfl
  unfold classify
  rw [htrim]
  simp only [hhashes, hafter, hindent, hinked, List.length_cons, List.length_replicate, hlevel, decide_true,
    Bool.and_self, Bool.not_false, if_true, Nat.zero_add]

/-- Behind unmarked text a name between two markers is read as the only span, from wherever in front of it. -/
theorem spansOfLine_emphasised {l : NumberedLine} {front : List Char} {kind : Emphasis} {name : Name}
    (htext : l.text = front ++ emphasised kind name.text) (hfront : IsUnmarked front) {place : Nat}
    (hplace : place ≤ front.length) : spansOfLine ⟨l, place⟩ = ⟨[⟨l, ⟨kind, front.length, name.text⟩⟩], []⟩ := by
  have hdrop : l.text.drop place = front.drop place ++ ((Span.mk kind front.length name.text).source ++ []) := by
    rw [htext, List.drop_append_of_le_length hplace, List.append_nil]
    rfl
  have hunmarked : IsUnmarked (front.drop place) := fun c hc => hfront c (List.mem_of_mem_drop hc)
  have hstart : place + (front.drop place).length = front.length := by
    rw [List.length_drop]
    omega
  have hspans : spansOf l.text place = ⟨[⟨kind, front.length, name.text⟩], none⟩ := by
    unfold spansOf
    rw [hdrop, spansFrom_append hunmarked, hstart, spansFrom_source_append name.isPlain.isUnmarked name.isInked,
      spansFrom]
  unfold spansOfLine
  simp only [hspans]
  rfl

/-- The only phrase of a line of hashes is the name at its end. -/
theorem readContent_hashes {l : NumberedLine} {level : Nat} (hlevel : 1 ≤ level ∧ level ≤ maxLevel) {front : List Char}
    (hfront : IsUnmarked front) {name : Name}
    (htext : l.text = List.replicate level '#' ++ ' ' :: front ++ emphasised .italic name.text) :
    let span : LocatedSpan := ⟨l, ⟨.italic, (List.replicate level '#' ++ ' ' :: front).length, name.text⟩⟩
    (∃ content, l.kind = .heading level content) ∧
      readContent l = ⟨(rangeBetween ⟨l, l.contentStart⟩ ⟨l, l.inkStop⟩, [span.phrase]), []⟩ := by
  intro span
  have hrest : l.text = List.replicate level '#' ++ ' ' :: (front ++ '*' :: (name.text ++ ['*'])) := by
    rw [htext]
    simp only [emphasised, Emphasis.marker, List.append_assoc, List.cons_append, List.nil_append]
  have hclass := classify_hashes hlevel (front ++ '*' :: (name.text ++ ['*']))
  simp only [← hrest] at hclass
  have hcontent : l.contentStart ≤ (List.replicate level '#' ++ ' ' :: front).length := by
    have hblanks : blanksBefore (' ' :: front ++ '*' :: (name.text ++ ['*'])) ≤ (' ' :: front).length :=
      blanksBefore_append_cons_le (' ' :: front) (by decide) _
    have hkind : l.contentStart ≤ level + blanksBefore (' ' :: (front ++ '*' :: (name.text ++ ['*']))) := by
      unfold NumberedLine.contentStart NumberedLine.kind
      rw [hclass]
      exact Nat.min_le_left _ _
    rw [List.cons_append] at hblanks
    rw [List.length_append, List.length_replicate]
    omega
  have hunmarked : IsUnmarked (List.replicate level '#' ++ ' ' :: front) := by
    have hhashes : IsUnmarked (List.replicate level '#') := by
      intro c hc
      rw [List.eq_of_mem_replicate hc]
      decide
    have hblank : IsUnmarked [' '] := by decide
    exact hhashes.append (hblank.append hfront)
  have hread := spansOfLine_emphasised htext hunmarked hcontent
  refine ⟨⟨_, hclass⟩, ?_⟩
  unfold readContent
  simp only [hread]
  rfl

theorem readTitle_row {l : NumberedLine} {before : Prose} {subject : Name}
    (h : l.text = (Row.title before subject).text) :
    isTitle l = true ∧
      ∃ range phrase, readTitle l = ⟨.title range [phrase], []⟩ ∧ phrase.text = subject.text := by
  let span : LocatedSpan := ⟨l, ⟨.italic, (List.replicate 1 '#' ++ ' ' :: before.text).length, subject.text⟩⟩
  obtain ⟨⟨content, hkind⟩, hread⟩ :=
    readContent_hashes (by decide : 1 ≤ 1 ∧ 1 ≤ maxLevel) before.isPlain.isUnmarked h
  refine ⟨?_, rangeBetween ⟨l, l.contentStart⟩ ⟨l, l.inkStop⟩, span.phrase, ?_, rfl⟩
  · unfold isTitle
    rw [hkind]
  · unfold readTitle
    rw [hread]

theorem readHeading_row {l : NumberedLine} {name : Name} (h : l.text = (Row.heading name).text) :
    let span : LocatedSpan := ⟨l, ⟨.italic, 3, name.text⟩⟩
    (∃ content, l.kind = .heading 2 content) ∧
      readHeading 2 l =
        ⟨.heading 2 (rangeBetween ⟨l, l.contentStart⟩ ⟨l, l.inkStop⟩) [span.phrase], []⟩ := by
  intro span
  have hfront : IsUnmarked [] := by decide
  obtain ⟨hkind, hread⟩ := readContent_hashes (by decide : 1 ≤ 2 ∧ 2 ≤ maxLevel) hfront h
  refine ⟨hkind, ?_⟩
  unfold readHeading
  rw [hread]
  rfl

/-! ## Requirements -/

/-- What stands between two places of one line. -/
theorem textBetween_of_append {l : NumberedLine} {front part rest : List Char} (h : l.text = front ++ part ++ rest)
    (lines : List NumberedLine) : textBetween lines ⟨l, front.length⟩ ⟨l, (front ++ part).length⟩ = part := by
  unfold textBetween
  rw [if_pos rfl, h, List.take_left, List.drop_left]

section Requirement

variable {l : NumberedLine} {id : Label} {before after : Prose} {subject : Name}
  (h : l.text = (Row.requirement id before subject after).text)

include h

theorem kind_requirement : l.kind = .text false := by
  unfold NumberedLine.kind
  rw [h]
  rfl

theorem inkStart_requirement : l.inkStart = 0 := by
  unfold NumberedLine.inkStart
  rw [h]
  rfl

/-- The spans of a requirement are its id and the keyword. -/
theorem spansOfLines_requirement :
    let front := emphasised .bold id.text ++ clauseText before subject
    spansOfLines [⟨l, l.inkStart⟩] =
      ⟨[⟨l, ⟨.bold, 0, id.text⟩⟩, ⟨l, ⟨.bold, front.length, keyword⟩⟩], []⟩ := by
  intro front
  have hsplit : l.text = (Span.mk .bold 0 id.text).source ++ (clauseText before subject ++
      ((Span.mk .bold front.length keyword).source ++ ' ' :: after.text)) := by
    rw [h]
    simp only [Row.text, List.append_assoc]
    rfl
  have hplace : (Span.mk .bold 0 id.text).stop + (clauseText before subject).length = front.length := by
    rw [← Span.length_source, List.length_append]
    exact Nat.zero_add _ ▸ rfl
  have hid := startsInked_of_isIdentifier id.isIdentifier_text
  have hkeyword : IsUnmarked keyword := by decide
  have hinked : startsInked keyword = true := by decide
  have hblank : IsUnmarked [' '] := by decide
  have hafter : IsUnmarked (' ' :: after.text) := hblank.append after.isPlain.isUnmarked
  have hspans : spansOf l.text 0 = ⟨[⟨.bold, 0, id.text⟩, ⟨.bold, front.length, keyword⟩], none⟩ := by
    unfold spansOf
    rw [List.drop_zero, hsplit, spansFrom_source_append id.isPlain.isUnmarked hid,
      spansFrom_append (isUnmarked_clauseText before subject), hplace, spansFrom_source_append hkeyword hinked,
      spansFrom_of_isUnmarked hafter]
  unfold spansOfLines spansOfLine
  simp only [List.flatMap_cons, List.flatMap_nil, List.append_nil, inkStart_requirement h, hspans]
  rfl

/-- A requirement has its id and, up to the keyword, its clause. -/
theorem readParagraph_row :
    ∃ range phrase clause, readParagraph l [] = ⟨.requirement range phrase (some clause), []⟩ ∧
      phrase.text = id.text ∧ clause.text = clauseText before subject := by
  let idSpan : LocatedSpan := ⟨l, ⟨.bold, 0, id.text⟩⟩
  let shall : LocatedSpan := ⟨l, ⟨.bold, (emphasised .bold id.text ++ clauseText before subject).length, keyword⟩⟩
  have hread : spansOfLines ([l].map fun m => ⟨m, m.inkStart⟩) = ⟨[idSpan, shall], []⟩ := spansOfLines_requirement h
  have hopens : opensRequirement l idSpan = true := by
    simp only [opensRequirement, idSpan, LocatedSpan.isBold, inkStart_requirement h, id.isIdentifier_text, decide_true,
      Bool.and_self]
  have hkeyword : [shall].find? LocatedSpan.isKeyword = some shall := List.find?_cons_of_pos rfl
  have hclause : textBetween [l] idSpan.stop shall.start = clauseText before subject := by
    have hstop : idSpan.stop = ⟨l, (emphasised .bold id.text).length⟩ := by
      unfold LocatedSpan.stop
      rw [← Span.length_source]
      exact congrArg (Cursor.mk l) (Nat.zero_add _)
    have hline : l.text = emphasised .bold id.text ++ clauseText before subject ++
        (emphasised .bold keyword ++ ' ' :: after.text) := by
      rw [h, Row.text, List.append_assoc]
    rw [hstop]
    exact textBetween_of_append hline [l]
  refine ⟨rangeBetween ⟨l, l.inkStart⟩ (inkEnd l []), idSpan.phrase,
    ⟨textBetween [l] idSpan.stop shall.start, rangeBetween idSpan.stop shall.start⟩, ?_, rfl, hclause⟩
  unfold readParagraph
  simp only [hread, hopens, if_true, hkeyword]

end Requirement

/-! ## Links -/

/-- The spans of the targets of a link that stand from a place on. -/
def targetSpans (place : Nat) : List Label → List Span
  | [] => []
  | t :: later =>
    let span : Span := ⟨.bold, place, t.text⟩
    span :: targetSpans (span.stop + 2) later

theorem targetsText_cons_cons (first second : Label) (others : List Label) :
    targetsText (first :: second :: others) =
      emphasised .bold first.text ++ ([',', ' '] ++ targetsText (second :: others)) := by
  unfold targetsText
  rw [List.map_cons, List.map_cons, List.intercalate_cons_cons, List.append_assoc]

theorem targetsText_singleton (t : Label) : targetsText [t] = emphasised .bold t.text := by
  unfold targetsText
  rw [List.map_singleton, List.intercalate_singleton]

theorem spansFrom_targetsText (first : Label) (others : List Label) (place : Nat) :
    spansFrom place (targetsText (first :: others)) = ⟨targetSpans place (first :: others), none⟩ := by
  have hid (t : Label) := startsInked_of_isIdentifier t.isIdentifier_text
  induction others generalizing first place with
  | nil =>
    have hsource : targetsText [first] = (Span.mk .bold place first.text).source ++ [] := by
      rw [targetsText_singleton, List.append_nil]
      rfl
    rw [hsource, spansFrom_source_append first.isPlain.isUnmarked (hid first), spansFrom]
    rfl
  | cons second others ih =>
    have hsource : targetsText (first :: second :: others) =
        (Span.mk .bold place first.text).source ++ ([',', ' '] ++ targetsText (second :: others)) :=
      targetsText_cons_cons first second others
    have hcomma : IsUnmarked [',', ' '] := by decide
    rw [hsource, spansFrom_source_append first.isPlain.isUnmarked (hid first), spansFrom_append hcomma, ih]
    rfl

theorem map_text_targetSpans (labels : List Label) (place : Nat) :
    (targetSpans place labels).map Span.text = labels.map Label.text := by
  induction labels generalizing place with
  | nil => rfl
  | cons t later ih => rw [targetSpans, List.map_cons, List.map_cons, ih]

theorem kind_of_mem_targetSpans {labels : List Label} {place : Nat} {s : Span} (h : s ∈ targetSpans place labels) :
    s.kind = .bold := by
  induction labels generalizing place with
  | nil => cases h
  | cons t later ih =>
    rcases List.mem_cons.1 h with rfl | h
    · rfl
    · exact ih h

/-- Between two targets stands a comma. -/
theorem separatedByComma_targetSpans {l : NumberedLine} {front : List Char} {first : Label} {others : List Label}
    (h : l.text = front ++ targetsText (first :: others)) (lines : List NumberedLine) :
    let spans := (targetSpans front.length (first :: others)).map (LocatedSpan.mk l)
    ∀ pair ∈ spans.zip spans.tail, separatedByComma lines pair.1 pair.2 = true := by
  induction others generalizing first front with
  | nil =>
    intro spans pair hpair
    cases hpair
  | cons second others ih =>
    intro spans pair hpair
    have hline : l.text = front ++ emphasised .bold first.text ++ [',', ' '] ++ targetsText (second :: others) := by
      rw [h, targetsText_cons_cons]
      simp only [List.append_assoc]
    have hstop : (Span.mk .bold front.length first.text).stop = (front ++ emphasised .bold first.text).length := by
      rw [← Span.length_source, List.length_append]
      rfl
    have hnext : (Span.mk .bold front.length first.text).stop + 2 =
        (front ++ emphasised .bold first.text ++ [',', ' ']).length := by
      simp only [hstop, List.length_append, List.length_cons, List.length_nil]
    have hspans : spans = ⟨l, ⟨.bold, front.length, first.text⟩⟩ ::
        (targetSpans (front ++ emphasised .bold first.text ++ [',', ' ']).length (second :: others)).map
          (LocatedSpan.mk l) := by
      rw [← hnext]
      rfl
    rw [hspans] at hpair
    rcases List.mem_cons.1 hpair with rfl | hpair
    · have hbetween := textBetween_of_append hline lines
      rw [← hstop] at hbetween
      unfold separatedByComma
      rw [decide_eq_true_iff]
      exact (congrArg trim hbetween).trans (by decide)
    · exact ih hline pair hpair

/-- Several bold identifiers with commas between them, or a single one, are the targets of a link. -/
theorem readTargets_of_isIdentifier {start : Cursor} {lines : List NumberedLine} {spans : List LocatedSpan}
    (hne : spans ≠ []) (hid : ∀ s ∈ spans, isIdentifier s.span.text = true)
    (hcomma : ∀ pair ∈ spans.zip spans.tail, separatedByComma lines pair.1 pair.2 = true) :
    readTargets start lines spans = ⟨.identifiers (spans.map LocatedSpan.phrase), []⟩ := by
  match spans with
  | [] => exact absurd rfl hne
  | [s] => exact if_pos (hid s (List.mem_singleton_self s))
  | first :: second :: others =>
    have hfilter : (first :: second :: others).filter (fun s => isIdentifier s.span.text) = first :: second :: others :=
      List.filter_eq_self.2 hid
    have hnone : ∀ s ∈ first :: second :: others, targetFaults true s = [] := by
      intro s hs
      unfold targetFaults
      rw [if_pos (hid s hs)]
      rfl
    have hlater : ((first :: second :: others).zip (second :: others)).flatMap
        (fun pair => targetFaults (separatedByComma lines pair.1 pair.2) pair.2) = [] := by
      rw [List.flatMap_eq_nil_iff]
      intro pair hpair
      rw [hcomma pair hpair]
      exact hnone pair.2 (List.mem_cons_of_mem first (List.of_mem_zip hpair).2)
    unfold readTargets
    simp only [hfilter, hnone first List.mem_cons_self, hlater, List.nil_append]

theorem exists_targetsText_eq_concat (first : Label) (others : List Label) :
    ∃ front, targetsText (first :: others) = front ++ ['*'] := by
  induction others generalizing first with
  | nil =>
    refine ⟨Emphasis.bold.marker ++ first.text ++ ['*'], ?_⟩
    rw [targetsText_singleton, List.append_assoc]
    rfl
  | cons second others ih =>
    obtain ⟨front, hfront⟩ := ih second
    refine ⟨emphasised .bold first.text ++ ([',', ' '] ++ front), ?_⟩
    rw [targetsText_cons_cons, hfront]
    simp only [List.append_assoc]

section LinkLine

variable {l : NumberedLine} {front : List Char} (h : l.text = ['*', ' '] ++ linkWord ++ ' ' :: front ++ ['*'])

include h

/-- A link is inked up to its end. -/
theorem inkStop_link : l.inkStop = l.text.length := by
  have htrim : trimEnd l.text = l.text := by
    unfold trimEnd
    rw [h, dropEndWhile_append_cons (by decide)]
    rfl
  unfold NumberedLine.inkStop
  rw [htrim]

theorem kind_link : l.kind = .bullet 2 := by
  have hclass : classify l.text = .bullet (min 2 l.inkStop) := by
    unfold NumberedLine.inkStop
    rw [h]
    rfl
  have hlength : 2 ≤ l.text.length := by
    rw [h]
    exact Nat.le_add_left 2 _
  unfold NumberedLine.kind
  rw [hclass, inkStop_link h, Nat.min_eq_left hlength]

theorem contentStart_link : l.contentStart = 2 := by
  unfold NumberedLine.contentStart
  rw [kind_link h]

/-- The range of a link reaches from behind its bullet to the end of its line. -/
theorem range_link : rangeBetween ⟨l, 2⟩ (inkEnd l []) = Range.onLine l.number 2 (utf16Length l.text) := by
  have hstart : column l.text 2 = 2 := by
    rw [h]
    rfl
  have hstop : column l.text l.inkStop = utf16Length l.text := by
    unfold column
    rw [inkStop_link h, List.take_length]
  have hrange : rangeBetween ⟨l, 2⟩ (inkEnd l []) =
      Range.onLine l.number (column l.text 2) (column l.text l.inkStop) := rfl
  rw [hrange, hstart, hstop]

end LinkLine

theorem Row.exists_text_link_eq (first : Label) (others : List Label) :
    ∃ front, (Row.link first others).text = ['*', ' '] ++ linkWord ++ ' ' :: front ++ ['*'] := by
  obtain ⟨front, hfront⟩ := exists_targetsText_eq_concat first others
  refine ⟨front, ?_⟩
  rw [Row.text, hfront]
  simp only [List.append_assoc, List.cons_append]

section Link

variable {l : NumberedLine} {first : Label} {others : List Label} (h : l.text = (Row.link first others).text)

include h

/-- The spans of a link are its targets. -/
theorem spansOfLines_link :
    spansOfLines [⟨l, 2⟩] = ⟨(targetSpans 13 (first :: others)).map (LocatedSpan.mk l), []⟩ := by
  have hword : IsUnmarked (linkWord ++ [' ']) := by decide
  have hdrop : l.text.drop 2 = linkWord ++ [' '] ++ targetsText (first :: others) := by
    rw [h, List.append_assoc]
    rfl
  have hspans : spansOf l.text 2 = ⟨targetSpans 13 (first :: others), none⟩ := by
    unfold spansOf
    rw [hdrop, spansFrom_append hword, spansFrom_targetsText]
    rfl
  unfold spansOfLines spansOfLine
  simp only [List.flatMap_cons, List.flatMap_nil, List.append_nil, hspans]
  rfl

/-- A link has its targets, and its range is that of its line, without the bullet. -/
theorem readItem_row :
    ∃ targets, readItem ⟨l, []⟩ = ⟨.link (Range.onLine l.number 2 (utf16Length l.text)) (.identifiers targets), []⟩ ∧
      targets.map Phrase.text = (first :: others).map Label.text := by
  let spans := (targetSpans 13 (first :: others)).map (LocatedSpan.mk l)
  have hbold : spans.filter LocatedSpan.isBold = spans := by
    rw [List.filter_eq_self]
    intro s hs
    obtain ⟨span, hspan, rfl⟩ := List.mem_map.1 hs
    unfold LocatedSpan.isBold
    rw [kind_of_mem_targetSpans hspan]
    rfl
  have htexts : spans.map (fun s => s.span.text) = (first :: others).map Label.text := by
    rw [List.map_map]
    exact map_text_targetSpans (first :: others) 13
  have hid : ∀ s ∈ spans, isIdentifier s.span.text = true := by
    intro s hs
    have hmem : s.span.text ∈ (first :: others).map Label.text := htexts ▸ List.mem_map_of_mem hs
    obtain ⟨t, _, ht⟩ := List.mem_map.1 hmem
    rw [← ht]
    exact t.isIdentifier_text
  have hline : l.text = ['*', ' '] ++ linkWord ++ [' '] ++ targetsText (first :: others) := by
    rw [h, List.append_assoc _ [' ']]
    rfl
  have hcomma : ∀ pair ∈ spans.zip spans.tail, separatedByComma [l] pair.1 pair.2 = true :=
    separatedByComma_targetSpans hline [l]
  have htargets : readTargets ⟨l, 2⟩ (ItemLines.lines ⟨l, []⟩) spans =
      ⟨.identifiers (spans.map LocatedSpan.phrase), []⟩ :=
    readTargets_of_isIdentifier (List.cons_ne_nil _ _) hid hcomma
  have hlink : isLink (l.text.drop 2) = true := by
    rw [h]
    rfl
  obtain ⟨front, hfront⟩ := Row.exists_text_link_eq first others
  refine ⟨spans.map LocatedSpan.phrase, ?_, ?_⟩
  · have hread : spansOfLines [⟨l, 2⟩] = ⟨spans, []⟩ := spansOfLines_link h
    have hrange := range_link (h.trans hfront)
    unfold readItem
    simp only [contentStart_link (h.trans hfront), List.map_nil, hread, hlink, if_true, hbold, hrange, htargets]
    rfl
  · rw [List.map_map]
    exact htexts

end Link

/-! ## Blocks of single lines -/

theorem readBody_nil : readBody [] = [] := by
  unfold readBody
  rw [Chunk.ofLines]
  rfl

theorem readBody_blank {l : NumberedLine} (hblank : l.kind = .blank) (rest : List NumberedLine) :
    readBody (l :: rest) = readBody rest := by
  unfold readBody
  rw [Chunk.ofLines, hblank]

theorem readBody_heading {l : NumberedLine} {level content : Nat} (hkind : l.kind = .heading level content)
    (rest : List NumberedLine) : readBody (l :: rest) = readHeading level l :: readBody rest := by
  unfold readBody
  rw [Chunk.ofLines, hkind]
  rfl

theorem ofList_of_isBullet {first : NumberedLine} {rest : List NumberedLine} (h : ∀ l ∈ rest, l.isBullet = true) :
    ItemLines.ofList first rest = (first :: rest).map fun l => ⟨l, []⟩ := by
  induction rest generalizing first with
  | nil => rfl
  | cons second others ih =>
    obtain ⟨hsecond, hothers⟩ := List.forall_mem_cons.1 h
    rw [ItemLines.ofList, if_pos hsecond, ih hothers]
    rfl

/-- Bullets make one list, with an item for each of them. -/
theorem readBody_bullets {ls : List NumberedLine} (hne : ls ≠ []) (h : ∀ l ∈ ls, ∃ content, l.kind = .bullet content) :
    ∃ range, readBody ls = [⟨.list range (ls.map fun l => (readItem ⟨l, []⟩).value),
      ls.flatMap fun l => (readItem ⟨l, []⟩).faults⟩] := by
  obtain ⟨first, rest, rfl⟩ := List.exists_cons_of_ne_nil hne
  obtain ⟨⟨content, hkind⟩, hrest⟩ := List.forall_mem_cons.1 h
  have hbullet : ∀ l ∈ rest, l.isBullet = true := by
    intro l hl
    obtain ⟨content, hkind⟩ := hrest l hl
    unfold NumberedLine.isBullet
    rw [hkind]
  have hcontinues : ∀ l ∈ rest, l.continuesList = true := by
    intro l hl
    obtain ⟨content, hkind⟩ := hrest l hl
    unfold NumberedLine.continuesList
    rw [hkind]
  have htake : rest.takeWhile NumberedLine.continuesList = rest := List.takeWhile_eq_self_iff.2 hcontinues
  have hdrop : rest.dropWhile NumberedLine.continuesList = [] := List.dropWhile_eq_nil_iff.2 hcontinues
  have hread : readList first rest = ⟨.list (rangeBetween ⟨first, first.inkStart⟩ (inkEnd first rest))
      ((first :: rest).map fun l => (readItem ⟨l, []⟩).value),
      (first :: rest).flatMap fun l => (readItem ⟨l, []⟩).faults⟩ := by
    unfold readList
    simp only [ofList_of_isBullet hbullet, List.map_map, List.flatMap_map]
    rfl
  refine ⟨rangeBetween ⟨first, first.inkStart⟩ (inkEnd first rest), ?_⟩
  unfold readBody
  rw [Chunk.ofLines, hkind, ← hread]
  simp only [htake, hdrop, Chunk.ofLines, List.map_cons, List.map_nil]
  rfl

/-! ## Rows are lines -/

theorem isOneLine_emphasised (kind : Emphasis) {text : List Char} (h : IsOneLine text) :
    IsOneLine (emphasised kind text) := by
  have hmarker : IsOneLine kind.marker := by
    cases kind with
    | italic => decide
    | bold => decide
  exact (hmarker.append h).append hmarker

theorem isOneLine_targetsText (first : Label) (others : List Label) : IsOneLine (targetsText (first :: others)) := by
  induction others generalizing first with
  | nil =>
    rw [targetsText_singleton]
    exact isOneLine_emphasised .bold first.isPlain.isOneLine
  | cons second others ih =>
    have hcomma : IsOneLine [',', ' '] := by decide
    rw [targetsText_cons_cons]
    exact (isOneLine_emphasised .bold first.isPlain.isOneLine).append (hcomma.append (ih second))

theorem Row.isOneLine (row : Row) : IsOneLine row.text := by
  have hblank : IsOneLine [' '] := by decide
  cases row with
  | title before subject =>
    have hmark : IsOneLine ['#', ' '] := by decide
    exact (hmark.append before.isPlain.isOneLine).append (isOneLine_emphasised .italic subject.isPlain.isOneLine)
  | gap blanks => exact fun c hc => (blanks.isBlank_text c hc).2
  | heading name =>
    have hmark : IsOneLine ['#', '#', ' '] := by decide
    exact hmark.append (isOneLine_emphasised .italic name.isPlain.isOneLine)
  | requirement id before subject after =>
    have hclause : IsOneLine (clauseText before subject) :=
      (((hblank.append before.isPlain.isOneLine).append (hblank.append subject.isPlain.isOneLine)).append hblank)
    have hkeyword : IsOneLine keyword := by decide
    exact (((isOneLine_emphasised .bold id.isPlain.isOneLine).append hclause).append
      (isOneLine_emphasised .bold hkeyword)).append (hblank.append after.isPlain.isOneLine)
  | link first others =>
    have hbullet : IsOneLine (['*', ' '] ++ linkWord) := by decide
    exact hbullet.append (hblank.append (isOneLine_targetsText first others))

end Traceability.Document
