import Mathlib.Data.List.Nodup
import Traceability.Proofs.Document.Ranges
set_option autoImplicit false

/-!
# List items of a document

The items of all lists of a document, one list after the other.  No two of them share a line.  Each is read from a
bullet and the indented text that follows it, and all that is at fault on these lines is met in reading it.
-/

namespace Traceability

namespace Document

open Text

/-- The items of a block. -/
def Block.items : Block → List ListItem
  | list _ items => items
  | _ => []

/-- A list of a document shares its lines out among its items. -/
theorem items_partition_of_mem_blocks {text : String} {range : Range} {items : List ListItem}
    (h : .list range items ∈ (Document.ofText text).blocks) :
    (∀ item ∈ items, item.range.start.line ≤ item.range.stop.line) ∧
      items.Pairwise (fun a b => a.range.stop.line < b.range.start.line) ∧
      ∀ n, (∃ item ∈ items, n ∈ item.range.lineNumbers) ↔ n ∈ range.lineNumbers := by
  obtain ⟨read, hread, hlist⟩ := List.mem_map.1 h
  obtain ⟨first, rest, hown, hvalue⟩ := exists_readList_of_mem_readLines (isConsecutive_numbered _) hread hlist
  exact items_partition_list hown hvalue

/-- An item stands between the first and the last line of its block. -/
theorem lines_of_mem_items {text : String} {block : Block} (hblock : block ∈ (Document.ofText text).blocks)
    {item : ListItem} (h : item ∈ block.items) :
    block.range.start.line ≤ item.range.start.line ∧ item.range.stop.line ≤ block.range.stop.line := by
  cases block with
  | list range items =>
    obtain ⟨hlines, _, hnumbers⟩ := items_partition_of_mem_blocks hblock
    have hitem := hlines item h
    have hstart := (hnumbers _).1 ⟨item, h, (Range.mem_lineNumbers_iff _ _).2 ⟨le_rfl, hitem⟩⟩
    have hstop := (hnumbers _).1 ⟨item, h, (Range.mem_lineNumbers_iff _ _).2 ⟨hitem, le_rfl⟩⟩
    exact ⟨((Range.mem_lineNumbers_iff _ _).1 hstart).1, ((Range.mem_lineNumbers_iff _ _).1 hstop).2⟩
  | title range phrases => cases h
  | heading level range phrases => cases h
  | sentence range => cases h
  | requirement range id clause => cases h

end Document

/-- All list items of a document, in order. -/
def Document.items (document : Document) : List Document.ListItem := document.blocks.flatMap Document.Block.items

namespace Document

open Text

theorem start_le_stop_of_mem_items {text : String} {item : ListItem} (h : item ∈ (Document.ofText text).items) :
    item.range.start.line ≤ item.range.stop.line := by
  obtain ⟨block, hblock, hitem⟩ := List.mem_flatMap.1 h
  cases block with
  | list range items => exact (items_partition_of_mem_blocks hblock).1 item hitem
  | title range phrases => cases hitem
  | heading level range phrases => cases hitem
  | sentence range => cases hitem
  | requirement range id clause => cases hitem

/-- Each item of a document ends before the next one starts. -/
theorem pairwise_items (text : String) :
    (Document.ofText text).items.Pairwise fun a b => a.range.stop.line < b.range.start.line := by
  refine List.pairwise_flatMap.2 ⟨?_, ?_⟩
  · intro block hblock
    cases block with
    | list range items => exact (items_partition_of_mem_blocks hblock).2.1
    | title range phrases => exact .nil
    | heading level range phrases => exact .nil
    | sentence range => exact .nil
    | requirement range id clause => exact .nil
  · refine (pairwise_blocks text).imp_of_mem ?_
    intro a b ha hb hlt x hx y hy
    exact ((lines_of_mem_items ha hx).2.trans_lt hlt).trans_le (lines_of_mem_items hb hy).1

/-! ## Lines of items -/

namespace NumberedLine

/-- Whether the line is indented text, which belongs to the item above. -/
def isIndentedText (l : NumberedLine) : Bool := l.kind = .text true

variable {l : NumberedLine}

theorem isBullet_eq_false_iff : l.isBullet = false ↔ ∀ content, l.kind ≠ .bullet content := by
  unfold isBullet
  cases l.kind with
  | bullet content => simp
  | blank => simp
  | heading level content => simp
  | text indented => simp

theorem isBullet_eq_false_of_isIndentedText (h : l.isIndentedText = true) : l.isBullet = false := by
  have hkind : l.kind = .text true := of_decide_eq_true h
  exact isBullet_eq_false_iff.2 fun content hbullet => by cases hkind.symm.trans hbullet

theorem isIndentedText_eq_false_of_isBullet (h : l.isBullet = true) : l.isIndentedText = false := by
  rw [Bool.eq_false_iff]
  intro htext
  rw [isBullet_eq_false_of_isIndentedText htext] at h
  cases h

theorem isBullet_eq_false_of_isText (h : l.isText = true) : l.isBullet = false := by
  refine isBullet_eq_false_iff.2 fun content hbullet => ?_
  unfold isText at h
  rw [hbullet] at h
  cases h

theorem continuesList_eq (l : NumberedLine) : l.continuesList = (l.isBullet || l.isIndentedText) := by
  unfold continuesList isBullet isIndentedText
  cases l.kind with
  | blank => rfl
  | heading level content => rfl
  | bullet content => rfl
  | text indented =>
    cases indented with
    | true => rfl
    | false => rfl

end NumberedLine

namespace ItemLines

/-- The items that stand in some lines: each bullet, with the indented text that follows it. -/
def ofLines : List NumberedLine → List ItemLines
  | [] => []
  | l :: rest => if l.isBullet then ⟨l, rest.takeWhile NumberedLine.isIndentedText⟩ :: ofLines rest else ofLines rest

variable {l : NumberedLine} {ls more : List NumberedLine}

theorem ofLines_cons_of_isBullet (h : l.isBullet = true) :
    ofLines (l :: ls) = ⟨l, ls.takeWhile NumberedLine.isIndentedText⟩ :: ofLines ls := by
  rw [ofLines, if_pos h]

theorem ofLines_cons_of_not_isBullet (h : l.isBullet = false) : ofLines (l :: ls) = ofLines ls := by
  rw [ofLines, if_neg (by simp [h])]

/-- Lines without a bullet in front of others hold no item. -/
theorem ofLines_dropWhile {p : NumberedLine → Bool} (hp : ∀ l, p l = true → l.isBullet = false)
    (ls : List NumberedLine) : ofLines (ls.dropWhile p) = ofLines ls := by
  induction ls with
  | nil => rfl
  | cons l rest ih =>
    cases hl : p l with
    | true => rw [List.dropWhile_cons_of_pos hl, ih, ofLines_cons_of_not_isBullet (hp l hl)]
    | false => rw [List.dropWhile_cons_of_neg (by simp [hl])]

/-- What does not begin with indented text can be read for itself. -/
theorem ofLines_append (h : ∀ l ∈ more.head?, l.isIndentedText = false) :
    ofLines (ls ++ more) = ofLines ls ++ ofLines more := by
  have htake (rest : List NumberedLine) : (rest ++ more).takeWhile NumberedLine.isIndentedText =
      rest.takeWhile NumberedLine.isIndentedText := by
    induction rest with
    | nil => exact takeWhile_append_eq_left (fun _ hl => absurd hl List.not_mem_nil) h
    | cons l rest ih =>
      rw [List.cons_append, List.takeWhile_cons, List.takeWhile_cons, ih]
  induction ls with
  | nil => rfl
  | cons l rest ih =>
    cases hl : l.isBullet with
    | true =>
      rw [List.cons_append, ofLines_cons_of_isBullet hl, ofLines_cons_of_isBullet hl, ih, htake, List.cons_append]
    | false => rw [List.cons_append, ofLines_cons_of_not_isBullet hl, ofLines_cons_of_not_isBullet hl, ih]

/-- The items of a list are those that stand in its lines. -/
theorem ofList_eq (first : NumberedLine) {rest : List NumberedLine} (h : ∀ l ∈ rest, l.continuesList = true) :
    ofList first rest = ⟨first, rest.takeWhile NumberedLine.isIndentedText⟩ :: ofLines rest := by
  induction rest generalizing first with
  | nil => rfl
  | cons l rest ih =>
    obtain ⟨hl, hrest⟩ := List.forall_mem_cons.1 h
    rw [NumberedLine.continuesList_eq] at hl
    cases hbullet : l.isBullet with
    | true =>
      have hindented := NumberedLine.isIndentedText_eq_false_of_isBullet hbullet
      rw [ofList, if_pos hbullet, ih l hrest, ofLines_cons_of_isBullet hbullet,
        List.takeWhile_cons_of_neg (by simp [hindented])]
    | false =>
      have hindented : l.isIndentedText = true := by simpa [hbullet] using hl
      rw [ofList, if_neg (by simp [hbullet]), ih first hrest, ofLines_cons_of_not_isBullet hbullet,
        List.takeWhile_cons_of_pos hindented]

end ItemLines

/-- The items of a chunk. -/
def Chunk.items : Chunk → List ItemLines
  | list first rest => ItemLines.ofList first rest
  | _ => []

theorem Chunk.flatMap_items_ofLines (ls : List NumberedLine) : (ofLines ls).flatMap items = ItemLines.ofLines ls := by
  fun_induction ofLines ls with
  | case1 => rfl
  | case2 l rest hkind ih =>
    have hbullet : l.isBullet = false := by simp [NumberedLine.isBullet_eq_false_iff, hkind]
    rw [ih, ItemLines.ofLines_cons_of_not_isBullet hbullet]
  | case3 l rest level content hkind ih =>
    have hbullet : l.isBullet = false := by simp [NumberedLine.isBullet_eq_false_iff, hkind]
    rw [List.flatMap_cons, ih, ItemLines.ofLines_cons_of_not_isBullet hbullet]
    rfl
  | case4 l rest content hkind ih =>
    have hbullet : l.isBullet = true := by simp [NumberedLine.isBullet, hkind]
    have hcontinues : ∀ m ∈ rest.takeWhile NumberedLine.continuesList, m.continuesList = true := fun m hm =>
      List.mem_takeWhile_imp hm
    have hstop : ∀ m ∈ (rest.dropWhile NumberedLine.continuesList).head?, m.isIndentedText = false := by
      intro m hm
      have hnot := List.head?_dropWhile_not NumberedLine.continuesList rest
      rw [Option.mem_def.1 hm] at hnot
      simp only [NumberedLine.continuesList_eq] at hnot
      exact (Bool.or_eq_false_iff.1 (by simpa using hnot)).2
    have hsplit : ItemLines.ofLines rest = ItemLines.ofLines (rest.takeWhile NumberedLine.continuesList) ++
        ItemLines.ofLines (rest.dropWhile NumberedLine.continuesList) := by
      rw [← ItemLines.ofLines_append hstop, List.takeWhile_append_dropWhile]
    have htake : (rest.takeWhile NumberedLine.continuesList).takeWhile NumberedLine.isIndentedText =
        rest.takeWhile NumberedLine.isIndentedText := by
      have hboth (m : NumberedLine) :
          (m.isIndentedText = true ∧ m.continuesList = true) ↔ m.isIndentedText = true := by
        rw [NumberedLine.continuesList_eq, Bool.or_eq_true]
        exact and_iff_left_of_imp .inr
      rw [List.takeWhile_takeWhile]
      simp only [hboth, Bool.decide_eq_true]
    have hitems : items (list l (rest.takeWhile NumberedLine.continuesList)) =
        ⟨l, rest.takeWhile NumberedLine.isIndentedText⟩ ::
          ItemLines.ofLines (rest.takeWhile NumberedLine.continuesList) := by
      rw [← htake]
      exact ItemLines.ofList_eq l hcontinues
    rw [List.flatMap_cons, ih, hitems, ItemLines.ofLines_cons_of_isBullet hbullet, hsplit, List.cons_append]
  | case5 l rest indented hkind ih =>
    have hbullet : l.isBullet = false := by simp [NumberedLine.isBullet_eq_false_iff, hkind]
    rw [List.flatMap_cons, ih, ItemLines.ofLines_cons_of_not_isBullet hbullet,
      ItemLines.ofLines_dropWhile (fun _ => NumberedLine.isBullet_eq_false_of_isText)]
    rfl

theorem Chunk.exists_list_of_mem_items {c : Chunk} {item : ItemLines} (h : item ∈ c.items) :
    ∃ first rest, c = list first rest ∧ item ∈ ItemLines.ofList first rest := by
  cases c with
  | heading level line => cases h
  | paragraph first rest => cases h
  | list first rest => exact ⟨first, rest, rfl, h⟩

theorem items_readChunk (c : Chunk) : (readChunk c).value.items = c.items.map fun item => (readItem item).value := by
  cases c with
  | heading level line => rfl
  | paragraph first rest =>
    have hread : readChunk (.paragraph first rest) = readParagraph first rest := rfl
    rcases readParagraph_cases first rest with hvalue | ⟨id, clause, _, hvalue⟩
    · rw [hread, hvalue]
      rfl
    · rw [hread, hvalue]
      rfl
  | list first rest =>
    have hread : (readChunk (.list first rest)).value.items =
        ((ItemLines.ofList first rest).map readItem).map Reading.value := rfl
    rw [hread, List.map_map]
    rfl

theorem isBullet_eq_false_of_isTitle {l : NumberedLine} (h : isTitle l = true) : l.isBullet = false := by
  refine NumberedLine.isBullet_eq_false_iff.2 fun content hbullet => ?_
  unfold isTitle at h
  rw [hbullet] at h
  cases h

theorem items_readLines (ls : List NumberedLine) :
    (readLines ls).flatMap (fun read => read.value.items) =
      (ItemLines.ofLines ls).map fun item => (readItem item).value := by
  have hbody (ls : List NumberedLine) : (readBody ls).flatMap (fun read => read.value.items) =
      (ItemLines.ofLines ls).map fun item => (readItem item).value := by
    unfold readBody
    rw [List.flatMap_map, ← Chunk.flatMap_items_ofLines, List.map_flatMap]
    exact List.flatMap_congr fun c _ => items_readChunk c
  cases ls with
  | nil => rfl
  | cons first rest =>
    rw [readLines_cons]
    split
    · next htitle =>
      rw [List.flatMap_cons, hbody, ItemLines.ofLines_cons_of_not_isBullet (isBullet_eq_false_of_isTitle htitle)]
      rfl
    · exact hbody (first :: rest)

/-- The items of a document are read one by one. -/
theorem items_ofText (text : String) :
    (Document.ofText text).items =
      (ItemLines.ofLines (numbered (Text.lines text))).map fun item => (readItem item).value := by
  rw [← items_readLines]
  exact List.flatMap_map _ _ _

/-- An item belongs to a list of the document. -/
theorem exists_readList_of_mem_ofLines {ls : List NumberedLine} {item : ItemLines} (h : item ∈ ItemLines.ofLines ls) :
    ∃ first rest, first :: rest <:+: ls ∧ readList first rest ∈ readLines ls ∧
      item ∈ ItemLines.ofList first rest := by
  have hbody : ∀ ls, item ∈ ItemLines.ofLines ls → ∃ first rest, first :: rest <:+: ls ∧
      readList first rest ∈ readBody ls ∧ item ∈ ItemLines.ofList first rest := by
    intro ls h
    rw [← Chunk.flatMap_items_ofLines] at h
    obtain ⟨c, hc, hitem⟩ := List.mem_flatMap.1 h
    obtain ⟨first, rest, rfl, hitem⟩ := c.exists_list_of_mem_items hitem
    exact ⟨first, rest, Chunk.lines_infix_of_mem_ofLines hc, List.mem_map_of_mem hc, hitem⟩
  cases ls with
  | nil => cases h
  | cons l others =>
    rw [readLines_cons]
    split
    · next htitle =>
      rw [ItemLines.ofLines_cons_of_not_isBullet (isBullet_eq_false_of_isTitle htitle)] at h
      obtain ⟨first, rest, hpart, hread, hitem⟩ := hbody others h
      exact ⟨first, rest, hpart.trans (List.suffix_cons l others).isInfix, List.mem_cons_of_mem _ hread, hitem⟩
    · exact hbody _ h

/-! ## Faults of items -/

/-- A fault is on the line of its place. -/
theorem line_range_fault (c : Cursor) (cause : FaultCause) (token : Option (List Char)) :
    (c.fault cause token).range.start.line = c.line.number := rfl

theorem exists_line_of_mem_faults_spansOfLines {first : NumberedLine} {place : Nat} {rest : List NumberedLine}
    {f : SyntaxFault} (h : f ∈ (spansOfLines (readingStarts first place rest)).faults) :
    f.range.start.line ∈ (first :: rest).map NumberedLine.number := by
  obtain ⟨c, hc, hf⟩ := List.mem_flatMap.1 h
  have hline : f.range.start.line = c.line.number := by
    unfold spansOfLine at hf
    obtain ⟨⟨kind, place⟩, _, rfl⟩ := Option.map_eq_some_iff.1 (Option.mem_toList.1 hf)
    exact line_range_fault _ _ _
  rw [hline]
  rcases List.mem_cons.1 hc with rfl | hc
  · exact List.mem_cons_self
  · obtain ⟨l, hl, rfl⟩ := List.mem_map.1 hc
    exact List.mem_map_of_mem (List.mem_cons_of_mem first hl)

theorem line_of_mem_faults_readItem {item : ItemLines} (h : IsConsecutive item.lines) {f : SyntaxFault}
    (hf : f ∈ (readItem item).faults) : f.range.start.line ∈ item.lines.map NumberedLine.number := by
  rcases readItem_cases item with hread | ⟨_, hread⟩
  · rw [hread] at hf
    exact exists_line_of_mem_faults_spansOfLines hf
  · rw [hread] at hf
    rcases List.mem_append.1 hf with hf | hf
    · exact exists_line_of_mem_faults_spansOfLines hf
    · rcases mem_faults_readTargets hf with rfl | ⟨s, hs, cause, rfl⟩
      · exact List.mem_map_of_mem List.mem_cons_self
      · exact List.mem_map_of_mem (of_mem_spansOfLines h (List.mem_filter.1 hs).1).1

theorem line_of_mem_faults_readChunk {c : Chunk} (h : IsConsecutive c.lines) {f : SyntaxFault}
    (hf : f ∈ (readChunk c).faults) : f.range.start.line ∈ c.lines.map NumberedLine.number := by
  cases c with
  | heading level line =>
    have hspans : f ∈ (spansOfLines (readingStarts line line.contentStart [])).faults :=
      List.mem_flatMap.2 ⟨_, List.mem_singleton_self _, hf⟩
    exact exists_line_of_mem_faults_spansOfLines hspans
  | paragraph first rest =>
    rcases mem_faults_readParagraph hf with hf | rfl
    · exact exists_line_of_mem_faults_spansOfLines hf
    · exact List.mem_map_of_mem (IsConsecutive.inkEnd_line_mem first rest)
  | list first rest =>
    obtain ⟨read, hread, hf⟩ := List.mem_flatMap.1 hf
    obtain ⟨item, hitem, rfl⟩ := List.mem_map.1 hread
    have hlines := ItemLines.lines_infix_of_mem_ofList hitem
    exact List.map_subset _ hlines.subset (line_of_mem_faults_readItem (h.part hlines) hf)

theorem line_of_mem_faults_readLines {ls : List NumberedLine} (h : IsConsecutive ls) {read : Reading Block}
    (hread : read ∈ readLines ls) {f : SyntaxFault} (hf : f ∈ read.faults) :
    f.range.start.line ∈ read.value.range.lineNumbers := by
  rcases mem_readLines_cases h hread with ⟨l, rfl⟩ | ⟨c, hc, rfl⟩
  · rw [lineNumbers_readTitle]
    exact line_of_mem_faults_readChunk (c := .heading 1 l) (List.isChain_singleton l) hf
  · rw [lineNumbers_readChunk hc]
    exact line_of_mem_faults_readChunk hc hf

/-- Where some parts share no line and the faults of each are on its lines, those on lines of one part are its own. -/
theorem filter_flatMap_faults {α : Type} {parts : List α} {lines : α → List Nat} {faults : α → List SyntaxFault}
    (hlines : (parts.flatMap lines).Nodup) (hfaults : ∀ a ∈ parts, ∀ f ∈ faults a, f.range.start.line ∈ lines a)
    {a : α} (ha : a ∈ parts) {wanted : List Nat} (hwanted : wanted ⊆ lines a) :
    (parts.flatMap faults).filter (fun f => f.range.start.line ∈ wanted) =
      (faults a).filter fun f => f.range.start.line ∈ wanted := by
  obtain ⟨front, back, rfl⟩ := List.append_of_mem ha
  have hother : ∀ b ∈ front ++ back, (faults b).filter (fun f => f.range.start.line ∈ wanted) = [] := by
    intro b hb
    have hdisjoint : (lines b).Disjoint (lines a) := by
      obtain ⟨_, hrest, hfront⟩ := List.pairwise_append.1 (List.nodup_flatMap.1 hlines).2
      rcases List.mem_append.1 hb with hb | hb
      · exact hfront b hb a List.mem_cons_self
      · exact fun n hmem hmem' => (List.pairwise_cons.1 hrest).1 b hb hmem' hmem
    refine List.filter_eq_nil_iff.2 fun f hf => ?_
    have hmem : b ∈ front ++ a :: back := by
      rcases List.mem_append.1 hb with hb | hb
      · exact List.mem_append_left _ hb
      · exact List.mem_append_right _ (List.mem_cons_of_mem a hb)
    simpa using fun hline => hdisjoint (hfaults b hmem f hf) (hwanted hline)
  have hnone (bs : List α) (hbs : bs ⊆ front ++ back) :
      (bs.flatMap faults).filter (fun f => f.range.start.line ∈ wanted) = [] := by
    rw [List.filter_flatMap]
    exact List.flatMap_eq_nil_iff.2 fun b hb => hother b (hbs hb)
  rw [List.flatMap_append, List.flatMap_cons, List.filter_append, List.filter_append,
    hnone front (List.subset_append_left _ _), hnone back (List.subset_append_right _ _), List.nil_append,
    List.append_nil]

/-- The faults on the lines of an item are those of reading it. -/
theorem filter_faults_of_mem_ofLines {text : String} {item : ItemLines}
    (hitem : item ∈ ItemLines.ofLines (numbered (Text.lines text))) :
    (Document.ofText text).faults.filter (fun f => f.range.start.line ∈ item.lines.map NumberedLine.number) =
      (readItem item).faults := by
  have hconsecutive := isConsecutive_numbered (Text.lines text)
  obtain ⟨first, rest, hpart, hread, hitem⟩ := exists_readList_of_mem_ofLines hitem
  have hlist := hconsecutive.part hpart
  have hinside := ItemLines.lines_infix_of_mem_ofList hitem
  have hblocks : ((readLines (numbered (Text.lines text))).flatMap fun read => read.value.range.lineNumbers).Nodup := by
    rw [flatMap_lineNumbers_readLines hconsecutive]
    exact (inkedNumbers_pairwise _).imp Nat.ne_of_lt
  have hitems : ((ItemLines.ofList first rest).flatMap fun i => i.lines.map NumberedLine.number).Nodup := by
    obtain ⟨_, _, _, _, hlines⟩ := ItemLines.flatMap_ofList first rest
    rw [← List.map_flatMap, hlines, hlist.map_number]
    exact List.nodup_range'
  have hwanted : item.lines.map NumberedLine.number ⊆ (readList first rest).value.range.lineNumbers := by
    have hrange : (readList first rest).value.range.lineNumbers = (first :: rest).map NumberedLine.number :=
      lineNumbers_readChunk (c := .list first rest) hlist
    rw [hrange]
    exact List.map_subset _ hinside.subset
  have hown : ∀ i ∈ ItemLines.ofList first rest, ∀ f ∈ (readItem i).faults,
      f.range.start.line ∈ i.lines.map NumberedLine.number := fun i hi f hf =>
    line_of_mem_faults_readItem (hlist.part (ItemLines.lines_infix_of_mem_ofList hi)) hf
  have hfaults : (readList first rest).faults = (ItemLines.ofList first rest).flatMap fun i => (readItem i).faults :=
    List.flatMap_map _ _ _
  unfold Document.ofText
  simp only
  rw [filter_flatMap_faults hblocks (fun read hread f hf => line_of_mem_faults_readLines hconsecutive hread hf) hread
    hwanted, hfaults, filter_flatMap_faults hitems hown hitem (List.Subset.refl _)]
  exact List.filter_eq_self.2 fun f hf => decide_eq_true (hown item hitem f hf)

end Document

end Traceability
