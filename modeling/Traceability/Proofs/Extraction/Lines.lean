import Traceability.Proofs.Document.Targets
import Traceability.Proofs.Extraction.Definitions
import Traceability.Proofs.Extraction.Ranges
set_option autoImplicit false

/-!
# What a line contributes

No two items of a document begin on the same line, and no two blocks do.  So what is claimed at the line of an item is
what this item claims, and what is defined at the line of a heading is what this heading defines, whatever else the
document says.
-/

namespace Traceability

open Text

/-- Where the parts of a list have different keys, and whatever a part gives has the key of that part, a key picks out
what its part gives. -/
theorem filter_flatMap_of_nodup {α β κ : Type} [DecidableEq κ] {parts : List α} {give : α → List β} {key : β → κ}
    {keyOf : α → κ} (hkeys : (parts.map keyOf).Nodup) (hgive : ∀ a ∈ parts, ∀ b ∈ give a, key b = keyOf a) {a : α}
    (ha : a ∈ parts) : (parts.flatMap give).filter (fun b => key b = keyOf a) = give a := by
  induction parts with
  | nil => cases ha
  | cons first rest ih =>
    obtain ⟨hfirst, hrest⟩ := List.nodup_cons.1 hkeys
    obtain ⟨hgiveFirst, hgiveRest⟩ := List.forall_mem_cons.1 hgive
    rw [List.flatMap_cons, List.filter_append]
    rcases List.mem_cons.1 ha with rfl | ha
    · have hself : (give a).filter (fun b => key b = keyOf a) = give a :=
        List.filter_eq_self.2 fun b hb => decide_eq_true (hgiveFirst b hb)
      have hothers : (rest.flatMap give).filter (fun b => key b = keyOf a) = [] := by
        refine List.filter_eq_nil_iff.2 fun b hb => ?_
        obtain ⟨other, hother, hb⟩ := List.mem_flatMap.1 hb
        have hne : keyOf other ≠ keyOf a := fun heq => hfirst (heq ▸ List.mem_map_of_mem hother)
        simpa [hgiveRest other hother b hb] using hne
      rw [hself, hothers, List.append_nil]
    · have hnone : (give first).filter (fun b => key b = keyOf a) = [] := by
        refine List.filter_eq_nil_iff.2 fun b hb => ?_
        have hne : keyOf first ≠ keyOf a := fun heq => hfirst (heq ▸ List.mem_map_of_mem ha)
        simpa [hgiveFirst b hb] using hne
      rw [hnone, List.nil_append, ih hrest hgiveRest ha]

namespace Document

/-- Each bullet begins an item. -/
theorem ItemLines.map_first_ofLines (ls : List NumberedLine) :
    (ofLines ls).map ItemLines.first = ls.filter NumberedLine.isBullet := by
  induction ls with
  | nil => rfl
  | cons l rest ih =>
    cases hl : l.isBullet with
    | true => rw [ofLines_cons_of_isBullet hl, List.map_cons, ih, List.filter_cons_of_pos hl]
    | false => rw [ofLines_cons_of_not_isBullet hl, ih, List.filter_cons_of_neg (by simp [hl])]

theorem ItemLines.nodup_number_ofLines (ls : List Line) :
    ((ofLines (numbered ls)).map fun item => item.first.number).Nodup := by
  have hnumbers : (ofLines (numbered ls)).map (fun item => item.first.number) =
      ((numbered ls).filter NumberedLine.isBullet).map NumberedLine.number := by
    rw [← ItemLines.map_first_ofLines, List.map_map]
    rfl
  have hall : ((numbered ls).map NumberedLine.number).Nodup := by
    rw [map_number_numbered]
    exact List.nodup_range
  rw [hnumbers]
  exact hall.sublist (List.filter_sublist.map _)

/-- A bullet is the first line of the item that it begins, and the indented text behind it belongs to this item. -/
theorem ItemLines.mem_ofLines {front more : List NumberedLine} {l : NumberedLine} (h : l.isBullet = true) :
    ⟨l, more.takeWhile NumberedLine.isIndentedText⟩ ∈ ofLines (front ++ l :: more) := by
  induction front with
  | nil =>
    rw [List.nil_append, ofLines_cons_of_isBullet h]
    exact List.mem_cons_self
  | cons first others ih =>
    rw [List.cons_append, ofLines]
    split
    · exact List.mem_cons_of_mem _ ih
    · exact ih

/-- A bullet is an item by itself, if no indented text stands on the next line. -/
theorem ItemLines.singleton_mem_ofLines {ls : List Line} {l : NumberedLine} (hl : l ∈ numbered ls)
    (hbullet : l.isBullet = true) (hnext : ∀ next ∈ ls[l.number + 1]?, classify next ≠ .text true) :
    ⟨l, []⟩ ∈ ofLines (numbered ls) := by
  obtain ⟨front, more, hsplit⟩ := List.append_of_mem hl
  have halone : more.takeWhile NumberedLine.isIndentedText = [] := by
    cases more with
    | nil => rfl
    | cons m others =>
      have hpart : l :: m :: others <:+: numbered ls := ⟨front, [], by rw [hsplit, List.append_nil]⟩
      obtain ⟨hnumber, _⟩ := List.isChain_cons_cons.1 ((isConsecutive_numbered ls).part hpart)
      have hm := (mem_numbered_iff ls m).1 (hpart.subset (List.mem_cons_of_mem _ List.mem_cons_self))
      rw [hnumber] at hm
      exact List.takeWhile_cons_of_neg fun h => hnext _ hm (of_decide_eq_true h)
  have hitem : ⟨l, more.takeWhile NumberedLine.isIndentedText⟩ ∈ ofLines (front ++ l :: more) :=
    ItemLines.mem_ofLines hbullet
  rwa [halone, ← hsplit] at hitem

/-- The range of an item, from behind its bullet to its last inked character. -/
def ItemLines.range (item : ItemLines) : Range := rangeBetween item.start (inkEnd item.first item.rest)

theorem ItemLines.startsWithLinkWord_of_isLink {item : ItemLines}
    (h : isLink (item.first.text.drop item.start.place) = true) : item.StartsWithLinkWord := by
  unfold isLink at h
  obtain ⟨hword, hend⟩ := Bool.and_eq_true_iff.1 h
  obtain ⟨rest, hrest⟩ := List.isPrefixOf_iff_prefix.1 hword
  refine ⟨rest, hrest.symm, fun c hc => ?_⟩
  rw [← hrest, List.drop_left, hc] at hend
  simpa using hend

/-- A heading is a chunk of its own, since neither lists nor paragraphs run over it. -/
theorem Chunk.heading_mem_ofLines {ls : List NumberedLine} {l : NumberedLine} (hl : l ∈ ls) {level content : Nat}
    (hkind : l.kind = .heading level content) : heading level l ∈ ofLines ls := by
  have hmem_dropWhile {p : NumberedLine → Bool} (hp : p l = false) {rest : List NumberedLine} (h : l ∈ rest) :
      l ∈ rest.dropWhile p := by
    rw [← List.takeWhile_append_dropWhile (p := p) (l := rest)] at h
    rcases List.mem_append.1 h with h | h
    · exact absurd (List.mem_takeWhile_imp h) (by simp [hp])
    · exact h
  fun_induction ofLines ls with
  | case1 => cases hl
  | case2 first rest hfirst ih =>
    rcases List.mem_cons.1 hl with rfl | hl
    · cases hfirst.symm.trans hkind
    · exact ih hl
  | case3 first rest level' content' hfirst ih =>
    rcases List.mem_cons.1 hl with rfl | hl
    · obtain ⟨rfl, _⟩ := LineKind.heading.inj (hfirst.symm.trans hkind)
      exact List.mem_cons_self
    · exact List.mem_cons_of_mem _ (ih hl)
  | case4 first rest content' hfirst ih =>
    rcases List.mem_cons.1 hl with rfl | hl
    · cases hfirst.symm.trans hkind
    · have hstops : l.continuesList = false := by simp [NumberedLine.continuesList, hkind]
      exact List.mem_cons_of_mem _ (ih (hmem_dropWhile hstops hl))
  | case5 first rest indented hfirst ih =>
    rcases List.mem_cons.1 hl with rfl | hl
    · cases hfirst.symm.trans hkind
    · have hstops : l.isText = false := by simp [NumberedLine.isText, hkind]
      exact List.mem_cons_of_mem _ (ih (hmem_dropWhile hstops hl))

/-- Behind the first line every heading is a block. -/
theorem readHeading_mem_readLines {ls : List Line} {l : NumberedLine} (hl : l ∈ numbered ls) (hnumber : l.number ≠ 0)
    {level content : Nat} (hkind : l.kind = .heading level content) :
    readHeading level l ∈ readLines (numbered ls) := by
  have hbody {rest : List NumberedLine} (h : l ∈ rest) : readHeading level l ∈ readBody rest :=
    List.mem_map_of_mem (f := readChunk) (Chunk.heading_mem_ofLines h hkind)
  cases hlines : numbered ls with
  | nil =>
    rw [hlines] at hl
    cases hl
  | cons first rest =>
    rw [hlines] at hl
    rw [readLines_cons]
    split
    · rcases List.mem_cons.1 hl with rfl | hl
      · have hfirst := congrArg (List.map NumberedLine.number) hlines
        rw [map_number_numbered, List.map_cons] at hfirst
        have hzero : (List.range ls.length)[0]? = some l.number := by rw [hfirst, List.getElem?_cons_zero]
        obtain ⟨_, hzero⟩ := List.getElem?_eq_some_iff.1 hzero
        rw [List.getElem_range] at hzero
        exact absurd hzero.symm hnumber
      · exact List.mem_cons_of_mem _ (hbody hl)
    · exact hbody hl

end Document

namespace Extraction

open Document

variable {text : String} (uri : String) (remarkUri : Option String)

/-- A document claims what its items claim. -/
theorem references_ofText (text : String) :
    (ofText uri text remarkUri).references =
      (ItemLines.ofLines (numbered (Text.lines text))).flatMap fun item =>
        referencesOfItem uri (readItem item).value := by
  have hblock (block : Block) : referencesOf uri block = block.items.flatMap (referencesOfItem uri) := by
    cases block with
    | list range items => rfl
    | title | heading | sentence | requirement => rfl
  have hitems : (ofText uri text remarkUri).references =
      (Document.ofText text).items.flatMap (referencesOfItem uri) := by
    unfold Document.items
    rw [List.flatMap_assoc]
    exact List.flatMap_congr fun block _ => hblock block
  rw [hitems, items_ofText, List.flatMap_map]

/-- The claims at the line of an item are its own. -/
theorem filter_references_of_mem_ofLines {item : ItemLines}
    (h : item ∈ ItemLines.ofLines (numbered (Text.lines text))) :
    (ofText uri text remarkUri).references.filter (fun r => r.range.start.line = item.first.number) =
      referencesOfItem uri (readItem item).value := by
  rw [references_ofText]
  refine filter_flatMap_of_nodup (ItemLines.nodup_number_ofLines _) (fun i _ r hr => ?_) h
  rw [range_of_mem_referencesOfItem hr, range_readItem]
  rfl

/-- A link claims its targets, and all of its claims have its range. -/
theorem referencesOfItem_readItem (uri : String) {item : ItemLines} (h : item.StartsWithLinkWord) :
    referencesOfItem uri (readItem item).value =
      (readTargets item.start item.lines item.boldSpans).value.ids.map fun id =>
        ⟨String.ofList id, uri, item.range⟩ := by
  rw [ItemLines.readItem_of_startsWithLinkWord h]
  rfl

/-- The claims at the line of a link are those of its targets. -/
theorem filter_references_of_startsWithLinkWord {item : ItemLines}
    (hitem : item ∈ ItemLines.ofLines (numbered (Text.lines text))) (hlink : item.StartsWithLinkWord) :
    (ofText uri text remarkUri).references.filter (fun r => r.range.start.line = item.first.number) =
      (readTargets item.start item.lines item.boldSpans).value.ids.map fun id =>
        ⟨String.ofList id, uri, item.range⟩ := by
  rw [filter_references_of_mem_ofLines uri remarkUri hitem, referencesOfItem_readItem uri hlink]

/-- The definitions at the first line of a block are its own. -/
theorem filter_definitions_of_mem_blocks {block : Block} (h : block ∈ (Document.ofText text).blocks) :
    (ofText uri text remarkUri).definitions.filter (fun d => d.idRange.start.line = block.range.start.line) =
      definitionsOf uri block := by
  have hkeys : ((Document.ofText text).blocks.map fun block => block.range.start.line).Nodup := by
    refine List.pairwise_map.2 ((pairwise_blocks text).imp_of_mem fun ha _ hlt => ?_)
    exact ((start_le_stop_of_mem_blocks text ha).trans_lt hlt).ne
  exact filter_flatMap_of_nodup hkeys (fun b hb d hd => (id_of_mem_definitionsOf uri text hb hd).2) h

end Extraction

end Traceability
