import Traceability.Extraction
import Traceability.Proofs.Document.BlankLine
import Traceability.Proofs.Document.Paragraphs
import Traceability.Proofs.Document.Rows
set_option autoImplicit false

/-!
# Well-formed documents are read exactly

An outline is a document as its author thinks of it: a subject, and sections that are headings or requirements with
their implementation links.  It is written row by row.  What is extracted from the text is just what the outline says:
the subject, the ids in order, every target with the range of its link, and no finding.

Since a blank line stands in front of each section, a section is read by itself.  The findings are followed along the
whole document: each section begins with a heading or a requirement, so its links belong to something.
-/

namespace Traceability

open Text Document

/-! ## Outlines -/

namespace Outline

/-- An implementation link and its targets. -/
structure Link where
  first : Label
  others : List Label

/-- What a section begins with. -/
inductive Head where
  | heading (name : Name)
  /-- The prose between the id and the subject, and that behind the keyword. -/
  | requirement (id : Label) (before after : Prose)

/-- A part of a document that begins with a blank line. -/
structure Section where
  gap : Gap
  head : Head
  links : List Link

end Outline

/-- A well-formed document. -/
structure Outline where
  before : Prose
  subject : Name
  sections : List Outline.Section

namespace Outline

def Link.row (k : Link) : Row := .link k.first k.others

/-- A requirement is about the subject of its document. -/
def Head.row (subject : Name) : Head → Row
  | heading name => .heading name
  | requirement id before after => .requirement id before subject after

def Section.rows (subject : Name) (s : Section) : List Row :=
  .gap s.gap :: s.head.row subject :: s.links.map Link.row

def rows (o : Outline) : List Row := .title o.before o.subject :: o.sections.flatMap (Section.rows o.subject)

/-- The lines of the document; if it is closed, its last line has an ending, too. -/
def lines (o : Outline) (closed : Bool) : List Line := o.rows.map Row.text ++ if closed then [[]] else []

/-- The text of the document. -/
def text (o : Outline) (ending : LineEnding) (closed : Bool) : String :=
  String.ofList (ending.text.intercalate (o.lines closed))

end Outline

/-- The requirements that a row defines. -/
def Document.Row.ids : Row → List (List Char)
  | heading name => [name.text]
  | requirement id _ _ _ => [id.text]
  | _ => []

/-- The claims of a row on line `number`; all of them stand at the item, which is the line without its bullet. -/
def Document.Row.references (uri : String) (row : Row) (number : Nat) : List Reference :=
  match row with
  | link first others =>
    (first :: others).map fun t => ⟨String.ofList t.text, uri, Range.onLine number 2 (utf16Length row.text)⟩
  | _ => []

/-- The claims of rows from line `number` on. -/
def rowReferences (uri : String) (number : Nat) (rows : List Row) : List Reference :=
  (rows.zipIdx number).flatMap fun entry => entry.1.references uri entry.2

namespace Outline

/-- The ids of all requirements, in order. -/
def ids (o : Outline) : List (List Char) := o.rows.flatMap Row.ids

/-- All claims, in order. -/
def references (o : Outline) (uri : String) : List Reference := rowReferences uri 0 o.rows

end Outline

/-! ## Lines of an outline -/

theorem Outline.lines_text (o : Outline) (ending : LineEnding) (closed : Bool) :
    Text.lines (o.text ending closed) = o.lines closed := by
  have hline : ∀ line ∈ o.lines closed, IsOneLine line := by
    intro line hline
    rcases List.mem_append.1 hline with hline | hline
    · obtain ⟨row, _, rfl⟩ := List.mem_map.1 hline
      exact row.isOneLine
    · split at hline
      · rw [List.mem_singleton.1 hline]
        decide
      · cases hline
  exact lines_intercalate ending hline

/-! ## Clauses about the subject -/

theorem plainText_of_isUnmarked {s : List Char} (h : IsUnmarked s) : plainText s = collapse s := by
  unfold plainText
  rw [List.filter_eq_self.2]
  intro c hc
  simpa using (h c hc).1

/-- The clause of a requirement ends in the subject. -/
theorem plainText_subject_suffix (before : Prose) (subject : Name) :
    plainText subject.text <:+ plainText (clauseText before subject) := by
  have hwords : words (clauseText before subject) = words before.text ++ words subject.text := by
    have hclause : clauseText before subject = [] ++ ' ' :: (before.text ++ ' ' :: (subject.text ++ ' ' :: [])) := by
      simp only [clauseText, List.nil_append, List.append_assoc, List.cons_append]
    have hspace : isBlank ' ' = true := by decide
    rw [hclause, words_append_blank hspace, words_append_blank hspace, words_append_blank hspace, words_nil,
      List.append_nil, List.nil_append]
  rw [plainText_of_isUnmarked subject.isPlain.isUnmarked,
    plainText_of_isUnmarked (isUnmarked_clauseText before subject)]
  unfold collapse
  rw [hwords]
  exact intercalate_suffix _ _ _

/-! ## Sections -/

/-- The row on its line. -/
def Document.Row.line (row : Row) (number : Nat) : NumberedLine := ⟨number, row.text⟩

/-- Rows from line `number` on. -/
def rowLines (number : Nat) (rows : List Row) : List NumberedLine :=
  (rows.zipIdx number).map fun entry => entry.1.line entry.2

theorem rowLines_append (number : Nat) (rows more : List Row) :
    rowLines number (rows ++ more) = rowLines number rows ++ rowLines (number + rows.length) more := by
  unfold rowLines
  rw [List.zipIdx_append, List.map_append]

theorem rowReferences_append (uri : String) (number : Nat) (rows more : List Row) :
    rowReferences uri number (rows ++ more) =
      rowReferences uri number rows ++ rowReferences uri (number + rows.length) more := by
  unfold rowReferences
  rw [List.zipIdx_append, List.flatMap_append]

namespace Outline

open Extraction

/-- What is read says just what the rows from line `number` on mean.  No fault is met, and the walk passes over the
blocks without a finding; a link may stand where they begin if `attached`, and where they end if `after`. -/
structure Says (uri : String) (subject : Name) (number : Nat) (rows : List Row) (attached after : Bool)
    (reads : List (Reading Block)) : Prop where
  faults : reads.flatMap Reading.faults = []
  ids : ((reads.map Reading.value).flatMap (definitionsOf uri)).map Definition.id =
    (rows.flatMap Row.ids).map String.ofList
  references : (reads.map Reading.value).flatMap (referencesOf uri) = rowReferences uri number rows
  passes : ∀ later, walk (some subject.text) attached (reads.map Reading.value ++ later) =
    walk (some subject.text) after later

namespace Says

variable {uri : String} {subject : Name} {number : Nat} {rows more : List Row} {attached between after : Bool}
  {reads others : List (Reading Block)}

theorem append (h : Says uri subject number rows attached between reads)
    (hmore : Says uri subject (number + rows.length) more between after others) :
    Says uri subject number (rows ++ more) attached after (reads ++ others) where
  faults := by rw [List.flatMap_append, h.faults, hmore.faults, List.append_nil]
  ids := by
    rw [List.map_append, List.flatMap_append, List.map_append, h.ids, hmore.ids, List.flatMap_append, List.map_append]
  references := by
    rw [List.map_append, List.flatMap_append, h.references, hmore.references, rowReferences_append]
  passes later := by rw [List.map_append, List.append_assoc, h.passes, hmore.passes]

end Says

section Section

variable (uri : String) (subject : Name) (number : Nat)

theorem says_gap (gap : Gap) (attached : Bool) : Says uri subject number [.gap gap] attached attached [] :=
  ⟨rfl, rfl, rfl, fun _ => rfl⟩

theorem mismatch_clause {before : Prose} {subject : Name} {clause : Phrase}
    (h : clause.text = clauseText before subject) : mismatch (some subject.text) (some clause) = [] := by
  have hsuffix : (plainText subject.text).isSuffixOf (plainText clause.text) = true := by
    rw [h]
    exact List.isSuffixOf_iff_suffix.2 (plainText_subject_suffix before subject)
  exact if_pos hsuffix

/-- A heading defines its name, a requirement its id.  What the requirement is about is the subject. -/
theorem exists_says_head (head : Head) (attached : Bool) :
    ∃ read, (∀ rest : List NumberedLine, (∀ l ∈ rest.head?, l.isText = false) →
        readBody ((head.row subject).line number :: rest) = read :: readBody rest) ∧
      Says uri subject number [head.row subject] attached true [read] := by
  cases head with
  | heading name =>
    obtain ⟨⟨content, hkind⟩, hread⟩ := readHeading_row (l := (Row.heading name).line number) rfl
    refine ⟨_, fun rest _ => readBody_heading hkind rest, ?_⟩
    rw [hread]
    exact ⟨rfl, rfl, rfl, fun _ => rfl⟩
  | requirement id before after =>
    have htext : ((Row.requirement id before subject after).line number).text = _ := rfl
    obtain ⟨range, phrase, clause, hread, hphrase, hclause⟩ := readParagraph_row htext
    have hnone : ∀ l ∈ ([] : List NumberedLine), l.isText = true := fun l hl => absurd hl List.not_mem_nil
    refine ⟨_, fun rest hrest => readBody_paragraph (kind_requirement htext) hnone hrest, ?_⟩
    rw [hread]
    refine ⟨rfl, ?_, rfl, ?_⟩
    · exact congrArg (fun text => [String.ofList text]) hphrase
    · intro later
      change mismatch (some subject.text) (some clause) ++ walk (some subject.text) true later = _
      rw [mismatch_clause hclause, List.nil_append]

/-! ### Links -/

theorem readItem_link (k : Link) :
    ∃ range targets, readItem ⟨k.row.line number, []⟩ = ⟨.link range targets, []⟩ ∧
      referencesOfItem uri (.link range targets) = k.row.references uri number := by
  have htext : (k.row.line number).text = (Row.link k.first k.others).text := rfl
  obtain ⟨targets, hread, htargets⟩ := readItem_row htext
  refine ⟨_, _, hread, ?_⟩
  unfold referencesOfItem Targets.ids
  simp only [htargets, List.map_map]
  rfl

theorem itemFindings_links {items : List ListItem} (h : ∀ item ∈ items, ∃ range targets, item = .link range targets) :
    itemFindings true items = [] := by
  induction items with
  | nil => rfl
  | cons item rest ih =>
    obtain ⟨⟨range, targets, rfl⟩, hrest⟩ := List.forall_mem_cons.1 h
    exact ih hrest

theorem kind_link_row (k : Link) : (k.row.line number).kind = .bullet 2 := by
  obtain ⟨front, hfront⟩ := Row.exists_text_link_eq k.first k.others
  exact kind_link hfront

theorem exists_says_links {links : List Link} (hne : links ≠ []) :
    ∃ read, readBody (rowLines number (links.map Link.row)) = [read] ∧
      Says uri subject number (links.map Link.row) true false [read] := by
  have hrow : ∀ entry ∈ (links.map Link.row).zipIdx number, ∃ k : Link, entry.1 = k.row := by
    intro entry hentry
    obtain ⟨k, _, hk⟩ := List.mem_map.1 (List.fst_mem_of_mem_zipIdx hentry)
    exact ⟨k, hk.symm⟩
  have hitem : ∀ entry ∈ (links.map Link.row).zipIdx number, ∃ range targets,
      readItem ⟨entry.1.line entry.2, []⟩ = ⟨.link range targets, []⟩ ∧
        referencesOfItem uri (.link range targets) = entry.1.references uri entry.2 := by
    intro entry hentry
    obtain ⟨k, hk⟩ := hrow entry hentry
    rw [hk]
    exact readItem_link uri entry.2 k
  have hkind : ∀ l ∈ rowLines number (links.map Link.row), ∃ content, l.kind = .bullet content := by
    intro l hl
    obtain ⟨entry, hentry, rfl⟩ := List.mem_map.1 hl
    obtain ⟨k, hk⟩ := hrow entry hentry
    rw [hk]
    exact ⟨2, kind_link_row entry.2 k⟩
  have hlines : rowLines number (links.map Link.row) ≠ [] := by
    obtain ⟨first, others, rfl⟩ := List.exists_cons_of_ne_nil hne
    exact List.cons_ne_nil _ _
  obtain ⟨range, hread⟩ := readBody_bullets hlines hkind
  refine ⟨_, hread, ?_, ?_, ?_, ?_⟩
  · rw [List.flatMap_singleton, List.flatMap_eq_nil_iff]
    intro l hl
    obtain ⟨entry, hentry, rfl⟩ := List.mem_map.1 hl
    obtain ⟨_, _, hread, _⟩ := hitem entry hentry
    rw [hread]
  -- A link defines nothing.
  · have hids : (links.map Link.row).flatMap Row.ids = [] := by
      rw [List.flatMap_map, List.flatMap_eq_nil_iff]
      exact fun k _ => rfl
    rw [hids]
    rfl
  · rw [List.map_singleton, List.flatMap_singleton]
    change ((rowLines number (links.map Link.row)).map fun l => (readItem ⟨l, []⟩).value).flatMap
      (referencesOfItem uri) = _
    unfold rowReferences rowLines
    rw [List.flatMap_map, List.flatMap_map]
    refine List.flatMap_congr fun entry hentry => ?_
    obtain ⟨_, _, hread, hreferences⟩ := hitem entry hentry
    rw [hread, hreferences]
  · intro later
    have hnone :
        itemFindings true ((rowLines number (links.map Link.row)).map fun l => (readItem ⟨l, []⟩).value) = [] := by
      apply itemFindings_links
      intro item hmem
      obtain ⟨l, hl, rfl⟩ := List.mem_map.1 hmem
      obtain ⟨entry, hentry, rfl⟩ := List.mem_map.1 hl
      obtain ⟨range, targets, hread, _⟩ := hitem entry hentry
      exact ⟨range, targets, congrArg Reading.value hread⟩
    change itemFindings true _ ++ walk (some subject.text) false later = _
    rw [hnone, List.nil_append]

/-! ### All sections -/

theorem kind_gap (gap : Gap) : ((Row.gap gap).line number).kind = .blank :=
  (classify_eq_blank_iff _).2 (List.all_eq_true.2 fun c hc => (gap.isBlank_text c hc).1)

theorem exists_says_section (s : Section) (attached : Bool) :
    ∃ after, Says uri subject number (s.rows subject) attached after (readBody (rowLines number (s.rows subject))) := by
  obtain ⟨read, hread, hhead⟩ := exists_says_head uri subject (number + 1) s.head attached
  have hgap := says_gap uri subject number s.gap attached
  have hlines : rowLines number (s.rows subject) = (Row.gap s.gap).line number ::
      (s.head.row subject).line (number + 1) :: rowLines (number + 2) (s.links.map Link.row) := rfl
  have hrows : s.rows subject = [.gap s.gap] ++ ([s.head.row subject] ++ s.links.map Link.row) := rfl
  have hstop : ∀ l ∈ (rowLines (number + 2) (s.links.map Link.row)).head?, l.isText = false := by
    intro l hl
    cases hlinks : s.links with
    | nil =>
      rw [hlinks] at hl
      cases hl
    | cons k others =>
      rw [hlinks] at hl
      obtain rfl := Option.some.inj hl
      unfold NumberedLine.isText
      rw [kind_link_row]
  rw [hlines, readBody_blank (kind_gap number s.gap), hread _ hstop, hrows]
  by_cases hne : s.links = []
  · rw [hne]
    exact ⟨true, hgap.append (readBody_nil ▸ hhead)⟩
  · obtain ⟨list, hlist, hlinks⟩ := exists_says_links uri subject (number + 2) hne
    rw [hlist]
    exact ⟨false, hgap.append (hhead.append hlinks)⟩

/-- A section is read by itself, since a blank line stands in front of it. -/
theorem readBody_append_sections (ls : List NumberedLine) (sections : List Section) :
    readBody (ls ++ rowLines number (sections.flatMap (Section.rows subject))) =
      readBody ls ++ readBody (rowLines number (sections.flatMap (Section.rows subject))) := by
  cases sections with
  | nil =>
    have hnone : rowLines number (([] : List Section).flatMap (Section.rows subject)) = [] := rfl
    rw [hnone, readBody_nil, List.append_nil, List.append_nil]
  | cons s later => exact readBody_append_blank (kind_gap number s.gap) ls _

theorem exists_says_sections (sections : List Section) (attached : Bool) :
    ∃ after, Says uri subject number (sections.flatMap (Section.rows subject)) attached after
      (readBody (rowLines number (sections.flatMap (Section.rows subject)))) := by
  -- Whether a link may stand behind a section is for the next one to overrule, so `attached` is left open.
  induction sections generalizing number attached with
  | nil =>
    have hnone : rowLines number (([] : List Section).flatMap (Section.rows subject)) = [] := rfl
    rw [hnone, readBody_nil]
    exact ⟨attached, rfl, rfl, rfl, fun _ => rfl⟩
  | cons s later ih =>
    obtain ⟨between, hsection⟩ := exists_says_section uri subject number s attached
    obtain ⟨after, hlater⟩ := ih (number + (s.rows subject).length) between
    refine ⟨after, ?_⟩
    rw [List.flatMap_cons, rowLines_append, readBody_append_sections]
    exact hsection.append hlater

end Section

/-! ## Outlines -/

theorem numbered_map_text (rows : List Row) : numbered (rows.map Row.text) = rowLines 0 rows := by
  unfold numbered rowLines
  rw [List.zipIdx_map, List.map_map]
  rfl

/-- The lines of an outline are those of its rows, and maybe an empty one. -/
theorem readLines_lines (o : Outline) (closed : Bool) :
    readLines (numbered (o.lines closed)) = readLines (rowLines 0 o.rows) := by
  unfold Outline.lines
  rw [numbered_append, numbered_map_text]
  cases closed with
  | false => exact congrArg readLines (List.append_nil _)
  | true =>
    let blank : NumberedLine := NumberedLine.shift (o.rows.map Row.text).length ⟨0, []⟩
    have hblank : blank.kind = .blank := rfl
    have hne : rowLines 0 o.rows ≠ [] := List.cons_ne_nil _ _
    have hlast := readLines_append_blank hne hblank []
    rw [readBody_blank hblank, readBody_nil, List.append_nil] at hlast
    exact hlast

/-- A well-formed document is read exactly: nothing in it is found wrong, and what is extracted from it is its subject,
its ids and all of its claims, in order. -/
theorem ofText_outline (o : Outline) (ending : LineEnding) (closed : Bool) (uri : String) (remarkUri : Option String) :
    let extraction := ofText uri (o.text ending closed) remarkUri
    extraction.findings = [] ∧ extraction.subject = some (String.ofList o.subject.text) ∧
      extraction.definitions.map Definition.id = o.ids.map String.ofList ∧
      extraction.references = o.references uri := by
  intro extraction
  let body := readBody (rowLines 1 (o.sections.flatMap (Section.rows o.subject)))
  obtain ⟨htitle, range, phrase, hread, hphrase⟩ := readTitle_row (l := (Row.title o.before o.subject).line 0) rfl
  obtain ⟨after, hbody⟩ := exists_says_sections uri o.subject 1 o.sections true
  have hdocument : Document.ofText (o.text ending closed) =
      ⟨.title range [phrase] :: body.map Reading.value, body.flatMap Reading.faults⟩ := by
    have hrows : rowLines 0 o.rows = (Row.title o.before o.subject).line 0 ::
        rowLines 1 (o.sections.flatMap (Section.rows o.subject)) := rfl
    unfold Document.ofText
    rw [o.lines_text, readLines_lines, hrows, readLines_cons, if_pos htitle, hread]
    rfl
  have hextraction : extraction = ofDocument uri (Document.ofText (o.text ending closed)) remarkUri := rfl
  rw [hextraction, hdocument]
  refine ⟨?_, ?_, ?_, ?_⟩
  · have hfaults : (body.flatMap Reading.faults).map (·.toFinding remarkUri) = [] := by
      rw [hbody.faults, List.map_nil]
    have hwalk := hbody.passes []
    rw [List.append_nil] at hwalk
    change (body.flatMap Reading.faults).map (·.toFinding remarkUri) ++
      walk (some phrase.text) true (body.map Reading.value) = []
    rw [hfaults, hphrase, hwalk]
    rfl
  · exact congrArg (fun text => some (String.ofList text)) hphrase
  · exact hbody.ids
  · exact hbody.references

example :
    let subject : Name := ⟨⟨"the tool".toList, by decide⟩, by decide⟩
    let runs : Section :=
      { gap := ⟨[], fun _ hc => absurd hc List.not_mem_nil⟩
        head := .requirement ⟨"Tool.Run".toList, by decide⟩ ⟨"When asked,".toList, by decide⟩ ⟨"run.".toList, by decide⟩
        links := [⟨⟨"A.1".toList, by decide⟩, [⟨"B".toList, by decide⟩]⟩] }
    text ⟨⟨"About ".toList, by decide⟩, subject, [runs]⟩ .lineFeed true =
      "# About *the tool*\n\n**Tool.Run** When asked, the tool **shall** run.\n* Implements **A.1**, **B**\n" := by
  decide

end Outline

end Traceability
