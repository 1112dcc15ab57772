import Traceability.Proofs.Document.BlankLine
import Traceability.Proofs.Document.Moves
import Traceability.Proofs.Document.Paragraphs
set_option autoImplicit false

/-!
# Requirements with another line break

A requirement whose line is broken in a gap still says the same.  Its spans keep their order and their texts, so the id
and the keyword are found again.  What stands between the two is put together from other pieces, with a space for the
new line ending instead of the gap, and so it consists of the same words.  The two parts of the line are text like the
whole line, so the paragraph still ends where it ended, and the other blocks are the same.
-/

namespace Traceability.Document

open Text

/-! ## Words -/

/-- The words of a text without emphasis marks. -/
def plainWords (s : List Char) : List (List Char) := words (s.filter (· ≠ '*'))

theorem plainText_eq (s : List Char) : plainText s = [' '].intercalate (plainWords s) := rfl

theorem cutsAtBlanks_plainWords : CutsAtBlanks plainWords := by
  refine ⟨rfl, fun {c} hc s t => ?_⟩
  have hkept : c ≠ '*' := by
    rintro rfl
    exact absurd hc (by decide)
  unfold plainWords
  rw [List.filter_append, List.filter_cons_of_pos (by simp [hkept]), words_append_blank hc]

/-! ## What blocks say -/

/-- The ids that an item claims to implement, if it is a link. -/
def ListItem.claims? : ListItem → Option (List (List Char))
  | text _ => none
  | link _ targets => some targets.ids

/-- Two blocks say the same, wherever they stand; of the clauses only the words count. -/
inductive Block.SaysSame : Block → Block → Prop where
  | title (range range' : Range) {phrases phrases' : List Phrase}
      (h : phrases'.map Phrase.text = phrases.map Phrase.text) : SaysSame (title range phrases) (title range' phrases')
  | heading (level : Nat) (range range' : Range) {phrases phrases' : List Phrase}
      (h : phrases'.map Phrase.text = phrases.map Phrase.text) :
      SaysSame (heading level range phrases) (heading level range' phrases')
  | sentence (range range' : Range) : SaysSame (sentence range) (sentence range')
  | requirement (range range' : Range) {id id' : Phrase} {clause clause' : Option Phrase} (hid : id'.text = id.text)
      (hclause : clause'.map (fun c => plainText c.text) = clause.map (fun c => plainText c.text)) :
      SaysSame (requirement range id clause) (requirement range' id' clause')
  | list (range range' : Range) {items items' : List ListItem}
      (h : items'.map ListItem.claims? = items.map ListItem.claims?) : SaysSame (list range items) (list range' items')

theorem Block.saysSame_refl (block : Block) : block.SaysSame block := by
  cases block with
  | title range phrases => exact .title range range rfl
  | heading level range phrases => exact .heading level range range rfl
  | sentence range => exact .sentence range range
  | requirement range id clause => exact .requirement range range rfl rfl
  | list range items => exact .list range range rfl

theorem Targets.ids_shift (n : Nat) (targets : Targets) : (targets.shift n).ids = targets.ids := by
  cases targets with
  | phrase target => rfl
  | identifiers targets => exact List.map_map

theorem ListItem.claims?_shift (n : Nat) (item : ListItem) : (item.shift n).claims? = item.claims? := by
  cases item with
  | text range => rfl
  | link range targets => exact congrArg some (targets.ids_shift n)

theorem map_text_shift (n : Nat) (phrases : List Phrase) :
    (phrases.map (Phrase.shift n)).map Phrase.text = phrases.map Phrase.text := List.map_map

theorem Block.saysSame_shift (n : Nat) (block : Block) : block.SaysSame (block.shift n) := by
  cases block with
  | title range phrases => exact .title range _ (map_text_shift n phrases)
  | heading level range phrases => exact .heading level range _ (map_text_shift n phrases)
  | sentence range => exact .sentence range _
  | requirement range id clause => exact .requirement range _ rfl (Option.map_map _ _ clause)
  | list range items =>
    refine .list range _ ?_
    rw [List.map_map]
    exact List.map_congr_left fun item _ => item.claims?_shift n

/-! ## Faults -/

/-- What a fault says, wherever it was met. -/
def SyntaxFault.wording (f : SyntaxFault) : FaultCause × Option (List Char) := (f.cause, f.token)

/-- A paragraph none of whose lines is at fault by itself has no lexical fault. -/
theorem faults_eq_nil_of_lexical {first : NumberedLine} {rest : List NumberedLine} {range : Range} {id : Phrase}
    {clause : Option Phrase} (hread : (readParagraph first rest).value = .requirement range id clause)
    (h : ∀ f ∈ (readParagraph first rest).faults, f.cause.stage = .lexical →
      f.line - 1 ∉ (first :: rest).map NumberedLine.number) :
    (spansOfParagraph (first :: rest)).faults = [] := by
  refine List.eq_nil_iff_forall_not_mem.2 fun f hf => ?_
  have hkept : f ∈ (readParagraph first rest).faults := by
    rcases readParagraph_spans_cases first rest with hsentence | ⟨s, others, hspans, hopens, -⟩
    · cases hsentence.symm.trans hread
    · rw [readParagraph_of_opens hspans hopens]
      exact List.mem_append_left _ hf
  obtain ⟨c, hc, hmem⟩ := List.mem_flatMap.1 hf
  obtain ⟨l, hl, rfl⟩ := List.mem_map.1 hc
  obtain ⟨stopped, -, rfl⟩ : ∃ stopped, (spansOf l.text l.inkStart).unterminated = some stopped ∧
      Cursor.fault ⟨l, stopped.2⟩ (.unterminated stopped.1) (some stopped.1.marker) = f := by
    simpa [spansOfLine] using hmem
  exact h _ hkept rfl (List.mem_map_of_mem hl)

namespace LineBreak

variable (b : LineBreak)

/-! ## Paragraphs -/

section Paragraph

variable {n : Nat} {before after : List NumberedLine}

/-- The first part of a line of text is of the same kind. -/
theorem kind_front (h : (NumberedLine.mk n b.line).isText = true) :
    (NumberedLine.mk n b.front).kind = (NumberedLine.mk n b.line).kind := by
  obtain ⟨indented, hkind⟩ := isText_iff.1 h
  exact (b.classify_front hkind).trans hkind.symm

/-- The parts of a line of text are lines of text. -/
theorem isText_broken (h : ∀ l ∈ b.unbroken n before after, l.isText = true) :
    ∀ l ∈ b.broken n before after, l.isText = true := by
  have hline := h ⟨n, b.line⟩ (List.mem_append_right before List.mem_cons_self)
  intro l hl
  rcases List.mem_append.1 hl with hl | hl
  · exact h l (List.mem_append_left _ hl)
  · rcases List.mem_cons.1 hl with rfl | hl
    · exact (isText_of_kind _ _ (b.kind_front hline)).trans hline
    · rcases List.mem_cons.1 hl with rfl | hl
      · exact isText_iff.2 b.exists_classify_back
      · obtain ⟨m, hm, rfl⟩ := List.mem_map.1 hl
        exact h m (List.mem_append_right before (List.mem_cons_of_mem _ hm))

variable {first first' : NumberedLine} {rest rest' : List NumberedLine}
  (hold : first :: rest = b.unbroken n before after) (hnew : first' :: rest' = b.broken n before after)

include hold hnew

/-- The broken lines begin with the same line as the unbroken ones, or with the first part of the line itself. -/
theorem first_cases : (first ∈ before ∧ first' = first) ∨ (first = ⟨n, b.line⟩ ∧ first' = ⟨n, b.front⟩) := by
  cases before with
  | nil => exact .inr ⟨(List.cons.inj hold).1, (List.cons.inj hnew).1⟩
  | cons l others =>
    obtain ⟨rfl, -⟩ := List.cons.inj hold
    exact .inl ⟨List.mem_cons_self, (List.cons.inj hnew).1⟩

theorem kind_first (h : first.isText = true) : first'.kind = first.kind := by
  rcases b.first_cases hold hnew with ⟨-, rfl⟩ | ⟨rfl, rfl⟩
  · rfl
  · exact b.kind_front h

variable (h : IsConsecutive (b.unbroken n before after))

include h

/-- The first inked character of the paragraph stays the first one. -/
theorem move_inkStart : b.move n ⟨first, first.inkStart⟩ = ⟨first', first'.inkStart⟩ := by
  rcases b.first_cases hold hnew with ⟨hmem, rfl⟩ | ⟨rfl, rfl⟩
  · exact b.move_of_lt (b.number_lt h _ hmem)
  · have hstart : NumberedLine.inkStart ⟨n, b.line⟩ = NumberedLine.inkStart ⟨n, b.front⟩ := b.blanksBefore_line
    rw [hstart]
    exact b.move_front (List.takeWhile_prefix isBlank).length_le

theorem opensRequirement_moveSpan {s : LocatedSpan} (hs : s ∈ (spansOfParagraph (b.unbroken n before after)).value)
    (hopens : opensRequirement first s = true) : opensRequirement first' (b.moveSpan n s) = true := by
  unfold opensRequirement at hopens ⊢
  simp only [Bool.and_eq_true, decide_eq_true_eq] at hopens ⊢
  obtain ⟨⟨⟨hnumber, hbold⟩, hstart⟩, hid⟩ := hopens
  have hline : s.line = first := by
    have hmem := (of_mem_spansOfParagraph hs).1
    rw [← hold] at hmem h
    rcases List.mem_cons.1 hmem with hfirst | hrest
    · exact hfirst
    · exact absurd hnumber (h.number_lt_of_mem hrest).ne'
  have hcursor : s.start = ⟨first, first.inkStart⟩ := by
    unfold LocatedSpan.start
    rw [hline, hstart]
  unfold moveSpan
  rw [hcursor, b.move_inkStart hold hnew h]
  exact ⟨⟨⟨rfl, hbold⟩, rfl⟩, hid⟩

/-- A requirement is read from the broken lines as from the unbroken ones: with the same id, a clause of the same words
just if there was one, and the same faults. -/
theorem readParagraph_broken (h' : IsConsecutive (b.broken n before after))
    (hlexical : (spansOfParagraph (b.unbroken n before after)).faults = []) {range : Range} {id : Phrase}
    {clause : Option Phrase} (hread : (readParagraph first rest).value = .requirement range id clause) :
    (readParagraph first rest).value.SaysSame (readParagraph first' rest').value ∧
      (readParagraph first' rest').faults.map SyntaxFault.wording =
        (readParagraph first rest).faults.map SyntaxFault.wording := by
  have hclosed : (spansOf b.line (blanksBefore b.line)).unterminated = none :=
    faults_spansOfParagraph_eq_nil_iff.1 hlexical ⟨n, b.line⟩ (List.mem_append_right before List.mem_cons_self)
  obtain ⟨s, others, hspans, hopens⟩ : ∃ s others, (spansOfParagraph (first :: rest)).value = s :: others ∧
      opensRequirement first s = true := by
    rcases readParagraph_spans_cases first rest with hsentence | ⟨s, others, hspans, hopens, -⟩
    · cases hsentence.symm.trans hread
    · exact ⟨s, others, hspans, hopens⟩
  have hmem : ∀ t ∈ s :: others, t ∈ (spansOfParagraph (b.unbroken n before after)).value := by
    rw [← hold, hspans]
    exact fun t ht => ht
  have hspans' : (spansOfParagraph (first' :: rest')).value = b.moveSpan n s :: others.map (b.moveSpan n) := by
    rw [hnew, b.spans_broken h hclosed, ← hold, hspans, List.map_cons]
  have hopens' := b.opensRequirement_moveSpan hold hnew h (hmem s List.mem_cons_self) hopens
  have hfind : (others.map (b.moveSpan n)).find? LocatedSpan.isKeyword =
      (others.find? LocatedSpan.isKeyword).map (b.moveSpan n) := List.find?_map
  have hfaults : (spansOfParagraph (first :: rest)).faults = [] := hold ▸ hlexical
  have hfaults' : (spansOfParagraph (first' :: rest')).faults = [] := hnew ▸ b.faults_broken n hlexical
  unfold spansOfParagraph at hfaults hfaults'
  rw [readParagraph_of_opens hspans hopens, readParagraph_of_opens hspans' hopens', hfind, hfaults, hfaults']
  refine ⟨.requirement _ _ rfl ?_, ?_⟩
  · cases hshall : others.find? LocatedSpan.isKeyword with
    | none => rfl
    | some shall =>
      have hlater := List.mem_of_find?_eq_some hshall
      have hle : s.line.number ≤ shall.line.number := number_le_of_spansOfParagraph (hold ▸ h) hspans hlater
      have hle' : (b.moveSpan n s).line.number ≤ (b.moveSpan n shall).line.number :=
        number_le_of_spansOfParagraph (hnew ▸ h') hspans' (List.mem_map_of_mem hlater)
      have hwords := b.textBetween_broken cutsAtBlanks_plainWords h h' hclosed (hmem s List.mem_cons_self)
        (hmem shall (List.mem_cons_of_mem s hlater)) hle hle'
      rw [← hold, ← hnew] at hwords
      simp only [Option.map_some, plainText_eq, hwords]
  · cases others.find? LocatedSpan.isKeyword with
    | none => rfl
    | some shall => rfl

end Paragraph

/-! ## Documents -/

/-- The numbered lines of the two documents. -/
theorem exists_numbered_eq (front back : List Line) :
    ∃ after, numbered (front ++ b.line :: back) = b.unbroken front.length (numbered front) after ∧
      numbered (front ++ b.front :: b.back :: back) = b.broken front.length (numbered front) after := by
  have hcons (line : Line) (more : List Line) :
      numbered (line :: more) = ⟨0, line⟩ :: (numbered more).map (NumberedLine.shift 1) := numbered_append [line] more
  have hfirst (n : Nat) (line : Line) : NumberedLine.shift n ⟨0, line⟩ = ⟨n, line⟩ :=
    congrArg (NumberedLine.mk · line) (Nat.zero_add n)
  have hcomm (n : Nat) (l : NumberedLine) : (l.shift 1).shift n = (l.shift n).shift 1 :=
    congrArg (NumberedLine.mk · l.text) (Nat.add_right_comm _ _ _)
  have hcommMap (n : Nat) (ls : List NumberedLine) : (ls.map (NumberedLine.shift 1)).map (NumberedLine.shift n) =
      (ls.map (NumberedLine.shift n)).map (NumberedLine.shift 1) := by
    rw [List.map_map, List.map_map]
    exact List.map_congr_left fun l _ => hcomm n l
  refine ⟨((numbered back).map (NumberedLine.shift 1)).map (NumberedLine.shift front.length), ?_, ?_⟩
  · unfold unbroken
    rw [numbered_append, hcons, List.map_cons, hfirst]
  · unfold broken
    rw [numbered_append, hcons, hcons, List.map_cons, List.map_cons, List.map_cons, hfirst, hcomm, hfirst, hcommMap]
    rfl

section Document

variable {n : Nat} {front back : List NumberedLine} (h : IsConsecutive (b.unbroken n front back))

include h

/-- If the line is one of a stretch of lines, it is only there that the line is broken. -/
theorem exists_unbroken_eq {earlier own later : List NumberedLine}
    (hlines : b.unbroken n front back = earlier ++ (own ++ later)) (hn : n ∈ own.map NumberedLine.number) :
    ∃ before after, own = b.unbroken n before after ∧
      b.broken n front back = earlier ++ (b.broken n before after ++ later.map (NumberedLine.shift 1)) := by
  obtain ⟨l, hl, hnumber⟩ := List.mem_map.1 hn
  obtain ⟨before, after, rfl⟩ := List.append_of_mem hl
  have hcut : front ++ ⟨n, b.line⟩ :: back = (earlier ++ before) ++ l :: (after ++ later) := by
    refine hlines.trans ?_
    simp only [List.append_assoc, List.cons_append]
  obtain ⟨rfl, rfl, rfl⟩ := IsConsecutive.append_cons_inj h hcut hnumber.symm
  refine ⟨before, after, rfl, ?_⟩
  unfold broken
  simp only [List.map_append, List.append_assoc, List.cons_append]

/-- A requirement is read from the broken lines as from the unbroken ones, and the blocks behind it go down. -/
theorem readLines_broken (h' : IsConsecutive (b.broken n front back)) {before after : List (Reading Block)}
    {read : Reading Block} {range : Range} {id : Phrase} {clause : Option Phrase}
    (hblocks : readLines (b.unbroken n front back) = before ++ read :: after)
    (hread : read.value = .requirement range id clause) (hline : n ∈ range.lineNumbers)
    (hlexical : ∀ f ∈ read.faults, f.cause.stage = .lexical → f.line - 1 ∉ range.lineNumbers) :
    ∃ read', readLines (b.broken n front back) = before ++ read' :: after.map (fun r => r.shift 1 (Block.shift 1)) ∧
      read.value.SaysSame read'.value ∧
      read'.faults.map SyntaxFault.wording = read.faults.map SyntaxFault.wording := by
  obtain ⟨earlier, first, rest, later, hlines, rfl, rfl, hparagraph⟩ := exists_isParagraph_of_readLines hread hblocks
  have hown : IsConsecutive (first :: rest) := h.part ⟨earlier, later, by rw [hlines, List.append_assoc]⟩
  have hnumbers : range.lineNumbers = (first :: rest).map NumberedLine.number := by
    have hvalue : (readChunk (.paragraph first rest)).value = .requirement range id clause := hread
    have hchunk := lineNumbers_readChunk (c := .paragraph first rest) hown
    rwa [hvalue] at hchunk
  rw [hnumbers] at hline hlexical
  obtain ⟨ownBefore, ownAfter, hold, hbroken⟩ := b.exists_unbroken_eq h hlines hline
  obtain ⟨first', rest', hnew⟩ : ∃ first' rest', b.broken n ownBefore ownAfter = first' :: rest' :=
    List.exists_cons_of_ne_nil (List.append_ne_nil_of_right_ne_nil ownBefore (List.cons_ne_nil _ _))
  rw [hnew] at hbroken
  have hown' : IsConsecutive (first' :: rest') :=
    h'.part ⟨earlier, later.map (NumberedLine.shift 1), by rw [hbroken, List.append_assoc]⟩
  have hfaults := faults_eq_nil_of_lexical hread hlexical
  obtain ⟨hequal, hwording⟩ :=
    b.readParagraph_broken hold hnew.symm (hold ▸ hown) (hnew ▸ hown') (hold ▸ hfaults) hread
  refine ⟨readParagraph first' rest', ?_, hequal, hwording⟩
  have hkind := b.kind_first hold hnew.symm (hparagraph.isText first List.mem_cons_self)
  have htexts := b.isText_broken (hold ▸ hparagraph.isText)
  rw [hnew] at htexts
  rw [hbroken, ← readBody_shift]
  refine hparagraph.replace hkind (fun m hm => htexts m (List.mem_cons_of_mem _ hm)) ?_
  rw [List.head?_map, Option.map_map]
  rfl

end Document

/-- A document in which a line of a requirement is broken has the same blocks and the same faults, further down behind
the break.  The requirement says the same. -/
theorem ofText_broken {text text' : String} {front back : List Line} (htext : lines text = front ++ b.line :: back)
    (htext' : lines text' = front ++ b.front :: b.back :: back) {before after : List Block} {range : Range}
    {id : Phrase} {clause : Option Phrase}
    (hblocks : (Document.ofText text).blocks = before ++ .requirement range id clause :: after)
    (hline : front.length ∈ range.lineNumbers)
    (hlexical : ∀ f ∈ (Document.ofText text).faults, f.cause.stage = .lexical → f.line - 1 ∉ range.lineNumbers) :
    ∃ block', (Document.ofText text').blocks = before ++ block' :: after.map (Block.shift 1) ∧
      (Block.requirement range id clause).SaysSame block' ∧
      (Document.ofText text').faults.map SyntaxFault.wording =
        (Document.ofText text).faults.map SyntaxFault.wording := by
  obtain ⟨more, hnumbered, hnumbered'⟩ := b.exists_numbered_eq front back
  have h := isConsecutive_numbered (lines text)
  have h' := isConsecutive_numbered (lines text')
  have hofText (text : String) :
      (Document.ofText text).blocks = (readLines (numbered (lines text))).map Reading.value ∧
        (Document.ofText text).faults = (readLines (numbered (lines text))).flatMap Reading.faults := ⟨rfl, rfl⟩
  rw [(hofText text).1, htext, hnumbered] at hblocks
  rw [(hofText text).2, htext, hnumbered] at hlexical
  rw [htext, hnumbered] at h
  rw [htext', hnumbered'] at h'
  rw [(hofText text').1, (hofText text').2, (hofText text).2, htext, htext', hnumbered, hnumbered']
  obtain ⟨earlier, others, hreads, rfl, hothers⟩ := List.map_eq_append_iff.1 hblocks
  obtain ⟨read, later, rfl, hread, rfl⟩ := List.map_eq_cons_iff.1 hothers
  have hown : ∀ f ∈ read.faults, f.cause.stage = .lexical → f.line - 1 ∉ range.lineNumbers := by
    intro f hf
    refine hlexical f (List.mem_flatMap.2 ⟨read, ?_, hf⟩)
    rw [hreads]
    exact List.mem_append_right earlier List.mem_cons_self
  obtain ⟨read', hreads', hequal, hwording⟩ := b.readLines_broken h h' hreads hread hline hown
  refine ⟨read'.value, ?_, hread ▸ hequal, ?_⟩
  · rw [hreads', List.map_append, List.map_cons, List.map_map, List.map_map]
    rfl
  · rw [hreads, hreads']
    simp only [List.flatMap_append, List.flatMap_cons, List.map_append, hwording, List.flatMap_map, List.map_flatMap,
      Reading.shift, List.map_map]
    rfl

end LineBreak

end Traceability.Document
