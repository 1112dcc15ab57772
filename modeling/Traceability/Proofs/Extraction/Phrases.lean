import Traceability.Proofs.Document.Rows
import Traceability.Proofs.Extraction.Lines
import Traceability.Proofs.Text.Spacing
import Traceability.Proofs.Word.Phrases
set_option autoImplicit false

/-!
# Names that are phrases

A heading defines the phrase between its markers, and a link refers to one.  The heading takes its phrase as it stands,
the link collapses the blanks of its own, and a cursor drops the blanks at both ends.
-/

namespace Traceability

open Text

namespace Document

/-! ## Two lines with a name -/

/-- A link to a name, as it is written. -/
def linkLine (name : Name) : Line := ['*', ' '] ++ linkWord ++ [' '] ++ emphasised .bold name.text

/-- The columns of a name that ends its line between two markers. -/
theorem column_emphasised (front : Line) (kind : Emphasis) (text : List Char) :
    let line := front ++ emphasised kind text
    let s : Span := ⟨kind, front.length, text⟩
    column line s.start = utf16Length front ∧ column line s.innerStart = utf16Length front + kind.width ∧
      column line s.innerStop = utf16Length front + kind.width + utf16Length text ∧
      column line s.stop = utf16Length front + kind.width + utf16Length text + kind.width := by
  intro line s
  have hmarker : utf16Length kind.marker = kind.width := by
    cases kind with
    | italic => rfl
    | bold => rfl
  have hcolumn {before after : Line} (hline : line = before ++ after) {place : Nat} (hplace : place = before.length) :
      column line place = utf16Length before := by
    unfold column
    rw [hline, hplace, List.take_left]
  have hinner : line = (front ++ kind.marker) ++ (text ++ kind.marker) := by
    simp only [line, emphasised, List.append_assoc]
  have hinnerStop : line = (front ++ kind.marker ++ text) ++ kind.marker := by
    simp only [line, emphasised, List.append_assoc]
  have hstop : line = (front ++ kind.marker ++ text ++ kind.marker) ++ [] := by
    simp only [line, emphasised, List.append_assoc, List.append_nil]
  refine ⟨hcolumn rfl rfl, ?_, ?_, ?_⟩
  · rw [hcolumn hinner (by rw [List.length_append]; rfl), utf16Length_append, hmarker]
  · rw [hcolumn hinnerStop (by rw [List.length_append, List.length_append]; rfl), utf16Length_append,
      utf16Length_append, hmarker]
  · rw [hcolumn hstop (by simp only [List.length_append]; rfl), utf16Length_append, utf16Length_append,
      utf16Length_append, hmarker]

/-! ## The name under a cursor -/

theorem ne_asterisk_of_isPlain {text : List Char} (h : IsPlain text) : ∀ c ∈ text, c ≠ '*' := fun c hc => (h c hc).1

theorem phrasesOf_heading (name : Name) : phrasesOf (Row.heading name).text = [⟨.italic, 3, name.text⟩] := by
  have hmark : ∀ c ∈ ['#', '#', ' '], c ≠ '*' := by simp
  have hsource : (Row.heading name).text = ['#', '#', ' '] ++ ((Span.mk .italic 3 name.text).source ++ []) := by
    rw [List.append_nil]
    rfl
  unfold phrasesOf
  rw [hsource, phrasesFrom_append hmark]
  exact (phrasesFrom_source_append (ne_asterisk_of_isPlain name.isPlain) name.isInked 3 []).trans (by rw [phrasesFrom])

theorem phrasesOf_linkLine (name : Name) : phrasesOf (linkLine name) = [⟨.bold, 13, name.text⟩] := by
  have hword : ∀ c ∈ [' '] ++ linkWord ++ [' '], c ≠ '*' := by simp [linkWord]
  have hsource : linkLine name =
      '*' :: ([' '] ++ linkWord ++ [' '] ++ ((Span.mk .bold 13 name.text).source ++ [])) := by
    rw [List.append_nil]
    rfl
  unfold phrasesOf
  rw [hsource, phrasesFrom_asterisk_of_blank 0 rfl]
  refine (phrasesFrom_append hword 1 _).trans ?_
  exact (phrasesFrom_source_append (ne_asterisk_of_isPlain name.isPlain) name.isInked 13 []).trans (by rw [phrasesFrom])

/-- A cursor on a name that ends its line, markers included, denotes the name without the blanks at its end. -/
theorem wordAtPosition_of_emphasised {text : String} {number : Nat} {front : Line} {kind : Emphasis} {name : Name}
    (hline : (lines text)[number]? = some (front ++ emphasised kind name.text))
    (hphrases : phrasesOf (front ++ emphasised kind name.text) = [⟨kind, front.length, name.text⟩]) {p : Position}
    (hp : (Range.onLine number (utf16Length front)
      (utf16Length front + kind.width + utf16Length name.text + kind.width)).contains p = true) :
    wordAtPosition text p = some (trim name.text) := by
  obtain ⟨hstart, _, _, hstop⟩ := column_emphasised front kind name.text
  rw [← hstop, ← hstart] at hp
  refine wordAtPosition_of_touches (s := ⟨kind, front.length, name.text⟩) hline ?_ hp (fun byte hle hge => ?_)
    (ne_nil_of_startsInked (trim_of_startsInked name.isInked).2)
  · rw [List.length_append]
    exact Nat.le_add_right _ _
  · rw [hphrases]
    exact List.find?_cons_of_pos (decide_eq_true ⟨hle, hge⟩)

/-! ## The bold span of a link -/

section LinkLine

variable {l : NumberedLine} {name : Name} (h : l.text = linkLine name)

include h

theorem exists_text_linkLine_eq : ∃ front, l.text = ['*', ' '] ++ linkWord ++ ' ' :: front ++ ['*'] := by
  refine ⟨Emphasis.bold.marker ++ name.text ++ ['*'], ?_⟩
  rw [h]
  simp only [linkLine, emphasised, Emphasis.marker, List.append_assoc, List.cons_append, List.nil_append]

theorem start_linkLine : (ItemLines.mk l []).start = ⟨l, 2⟩ := by
  obtain ⟨front, hfront⟩ := exists_text_linkLine_eq h
  unfold ItemLines.start
  rw [contentStart_link hfront]

theorem startsWithLinkWord_linkLine : (ItemLines.mk l []).StartsWithLinkWord := by
  refine ⟨' ' :: emphasised .bold name.text, ?_, fun c hc => ?_⟩
  · rw [start_linkLine h, h]
    rfl
  · obtain rfl := Option.some.inj hc
    decide

theorem boldSpans_linkLine : (ItemLines.mk l []).boldSpans = [⟨l, ⟨.bold, 13, name.text⟩⟩] := by
  have hdrop : l.text.drop 2 = linkWord ++ [' '] ++ ((Span.mk .bold 13 name.text).source ++ []) := by
    rw [h, List.append_nil]
    rfl
  have hword : IsUnmarked (linkWord ++ [' ']) := by decide
  have hspans : spansOf l.text 2 = ⟨[⟨.bold, 13, name.text⟩], none⟩ := by
    unfold spansOf
    rw [hdrop, spansFrom_append hword]
    exact (spansFrom_source_append name.isPlain.isUnmarked name.isInked 13 []).trans (by rw [spansFrom])
  unfold ItemLines.boldSpans
  rw [start_linkLine h]
  unfold spansOfLines readingStarts spansOfLine
  simp only [List.map_nil, List.flatMap_cons, List.flatMap_nil, hspans]
  rfl

theorem range_linkLine : (ItemLines.mk l []).range = Range.onLine l.number 2 (17 + utf16Length name.text) := by
  obtain ⟨front, hfront⟩ := exists_text_linkLine_eq h
  have hlength : utf16Length l.text = 17 + utf16Length name.text := by
    rw [h]
    simp only [linkLine, emphasised, utf16Length_append]
    have hlead : utf16Length ['*', ' '] + utf16Length linkWord + utf16Length [' '] = 13 := by decide
    have hmarker : utf16Length Emphasis.bold.marker = 2 := by decide
    omega
  unfold ItemLines.range
  rw [start_linkLine h]
  exact hlength ▸ range_link hfront

end LinkLine

end Document

namespace Extraction

open Document

/-! ## What the two lines contribute -/

variable (uri : String) {text : String} (remarkUri : Option String) {number : Nat} {name : Name}

/-- A heading defines its name as it stands. -/
theorem filter_definitions_of_heading (hnumber : number ≠ 0)
    (hline : (lines text)[number]? = some (Row.heading name).text) :
    let range := Range.onLine number 4 (4 + utf16Length name.text)
    (ofText uri text remarkUri).definitions.filter (fun d => d.idRange.start.line = number) =
      [⟨String.ofList name.text, uri, range, range⟩] := by
  intro range
  let l : NumberedLine := ⟨number, (Row.heading name).text⟩
  obtain ⟨⟨content, hkind⟩, hread⟩ := readHeading_row (l := l) rfl
  have hblock : (readHeading 2 l).value ∈ (Document.ofText text).blocks :=
    List.mem_map_of_mem (readHeading_mem_readLines ((mem_numbered_iff _ _).2 hline) hnumber hkind)
  have hfilter := filter_definitions_of_mem_blocks uri remarkUri hblock
  rw [hread] at hfilter
  obtain ⟨_, hstart, hstop, _⟩ := column_emphasised ['#', '#', ' '] .italic name.text
  have hrange : (LocatedSpan.mk l ⟨.italic, 3, name.text⟩).phrase.range = range :=
    congrArg₂ (Range.onLine number) hstart hstop
  rw [← hrange]
  exact hfilter

/-- A link refers to its name with the blanks collapsed. -/
theorem filter_references_of_linkLine (hline : (lines text)[number]? = some (linkLine name))
    (hnext : ∀ next ∈ (lines text)[number + 1]?, classify next ≠ .text true) :
    (ofText uri text remarkUri).references.filter (fun r => r.range.start.line = number) =
      [⟨String.ofList (collapse name.text), uri, Range.onLine number 2 (17 + utf16Length name.text)⟩] := by
  let l : NumberedLine := ⟨number, linkLine name⟩
  have htext : l.text = linkLine name := rfl
  have hbullet : l.isBullet = true := by
    obtain ⟨front, hfront⟩ := exists_text_linkLine_eq htext
    unfold NumberedLine.isBullet
    rw [kind_link hfront]
  have hitem := ItemLines.singleton_mem_ofLines ((mem_numbered_iff _ l).2 hline) hbullet hnext
  have hid : (if isIdentifier name.text then name.text else collapse name.text) = collapse name.text := by
    split
    · next hidentifier =>
      exact ((collapse_eq_self_iff name.isInked).2 (.of_inked (isBlank_eq_false_of_isIdentifier hidentifier))).symm
    · rfl
  have hfilter := filter_references_of_startsWithLinkWord uri remarkUri hitem (startsWithLinkWord_linkLine htext)
  rw [boldSpans_linkLine htext, ids_readTargets_singleton, range_linkLine htext] at hfilter
  simp only [hid] at hfilter
  exact hfilter

end Extraction

end Traceability
