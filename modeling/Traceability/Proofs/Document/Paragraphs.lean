import Traceability.Proofs.Document.Partition
import Traceability.Proofs.Text.Fields
set_option autoImplicit false

/-!
# Paragraphs in a document

What is read from a paragraph depends on its own lines only, and it has no influence on the other blocks.  Lines of text
may be put in its place, as many as one likes, if the first of them is of the same kind as its first line: the lines in
front cannot tell the difference, and those behind are cut from the same place on.
-/

namespace Traceability.Document

open Text

/-! ## Cuts -/

theorem continuesList_of_kind (l m : NumberedLine) (h : l.kind = m.kind) : l.continuesList = m.continuesList := by
  unfold NumberedLine.continuesList
  rw [h]

theorem isText_of_kind (l m : NumberedLine) (h : l.kind = m.kind) : l.isText = m.isText := by
  unfold NumberedLine.isText
  rw [h]

theorem isText_iff {l : NumberedLine} : l.isText = true ↔ ∃ indented, l.kind = .text indented := by
  unfold NumberedLine.isText
  constructor
  · intro h
    split at h
    · next indented hkind => exact ⟨indented, hkind⟩
    · cases h
  · rintro ⟨indented, hkind⟩
    rw [hkind]

/-- The lines of a chunk stand between others.  Those in front are cut into the same chunks whatever follows them, if it
begins with a line of the kind of the first line of the chunk. -/
def IsCut (ls : List NumberedLine) (before : List Chunk) (c : Chunk) (after : List Chunk) : Prop :=
  ∃ front back, ls = front ++ (c.lines ++ back) ∧ Chunk.ofLines (c.lines ++ back) = c :: after ∧
    ∀ more : List NumberedLine, more.head?.map NumberedLine.kind = c.lines.head?.map NumberedLine.kind →
      Chunk.ofLines (front ++ more) = before ++ Chunk.ofLines more

section Cut

variable {before after : List Chunk} {c : Chunk} {l : NumberedLine} {rest : List NumberedLine}

theorem IsCut.cons (h : IsCut rest before c after) {earlier : List Chunk}
    (hl : ∀ more : List NumberedLine, Chunk.ofLines (l :: more) = earlier ++ Chunk.ofLines more) :
    IsCut (l :: rest) (earlier ++ before) c after := by
  obtain ⟨front, back, hrest, hown, hcut⟩ := h
  refine ⟨l :: front, back, by rw [hrest, List.cons_append], hown, fun more hmore => ?_⟩
  rw [List.cons_append, hl, hcut more hmore, List.append_assoc]

variable {p : NumberedLine → Bool} (hp : ∀ l m : NumberedLine, l.kind = m.kind → p l = p m)

include hp

/-- Where a chunk ends depends only on the kind of the next line. -/
theorem takeWhile_dropWhile_of_kind {front old more : List NumberedLine} (hdrop : rest.dropWhile p = front ++ old)
    (hkind : more.head?.map NumberedLine.kind = old.head?.map NumberedLine.kind) :
    (rest.takeWhile p ++ (front ++ more)).takeWhile p = rest.takeWhile p ∧
      (rest.takeWhile p ++ (front ++ more)).dropWhile p = front ++ more := by
  have htaken : ∀ m ∈ rest.takeWhile p, p m = true := fun m hm => List.mem_takeWhile_imp hm
  have hstop : ∀ m ∈ (front ++ old).head?, p m = false := by
    intro m hm
    have hhead := List.head?_dropWhile_not p rest
    rw [hdrop, hm] at hhead
    simpa using hhead
  have hnext : ∀ m ∈ (front ++ more).head?, p m = false := by
    intro m hm
    cases front with
    | cons first others => exact hstop m hm
    | nil =>
      have hfirst : more.head? = some m := hm
      rw [hfirst, Option.map_some] at hkind
      obtain ⟨m', hm', hkinds⟩ := Option.map_eq_some_iff.1 hkind.symm
      rw [← hp m' m hkinds]
      exact hstop m' hm'
  exact ⟨takeWhile_append_eq_left htaken hnext, dropWhile_append_eq_right htaken hnext⟩

/-- The first line of a chunk takes the lines up to some other one with it. -/
theorem isCut_of_cons {make : List NumberedLine → Chunk} (hmake : ∀ taken, (make taken).lines = l :: taken)
    (hl : ∀ more : List NumberedLine,
      Chunk.ofLines (l :: more) = make (more.takeWhile p) :: Chunk.ofLines (more.dropWhile p))
    (ih : ∀ {others}, Chunk.ofLines (rest.dropWhile p) = others ++ c :: after → IsCut (rest.dropWhile p) others c after)
    (h : make (rest.takeWhile p) :: Chunk.ofLines (rest.dropWhile p) = before ++ c :: after) :
    IsCut (l :: rest) before c after := by
  cases before with
  | nil =>
    obtain ⟨rfl, rfl⟩ := List.cons.inj h
    have hlines : (make (rest.takeWhile p)).lines ++ rest.dropWhile p = l :: rest := by
      rw [hmake, List.cons_append, List.takeWhile_append_dropWhile]
    exact ⟨[], rest.dropWhile p, hlines.symm, by rw [hlines, hl], fun more _ => rfl⟩
  | cons first others =>
    obtain ⟨rfl, hothers⟩ := List.cons.inj h
    obtain ⟨front, back, hrest, hown, hcut⟩ := ih hothers
    refine ⟨l :: (rest.takeWhile p ++ front), back, ?_, hown, fun more hmore => ?_⟩
    · rw [List.cons_append, List.append_assoc, ← hrest, List.takeWhile_append_dropWhile]
    · have hkinds : more.head?.map NumberedLine.kind = (c.lines ++ back).head?.map NumberedLine.kind := by
        rw [List.head?_append_of_ne_nil c.lines c.lines_ne_nil]
        exact hmore
      obtain ⟨htake, hdrop⟩ := takeWhile_dropWhile_of_kind hp hrest hkinds
      rw [List.cons_append, List.append_assoc, hl, htake, hdrop, hcut more hmore, List.cons_append]

end Cut

theorem isCut_of_ofLines {ls : List NumberedLine} {before after : List Chunk} {c : Chunk}
    (h : Chunk.ofLines ls = before ++ c :: after) : IsCut ls before c after := by
  fun_induction Chunk.ofLines ls generalizing before with
  | case1 => simp at h
  | case2 l rest hkind ih =>
    have hl (more : List NumberedLine) : Chunk.ofLines (l :: more) = [] ++ Chunk.ofLines more := by
      rw [Chunk.ofLines, hkind, List.nil_append]
    exact (ih h).cons hl
  | case3 l rest level content hkind ih =>
    have hl (more : List NumberedLine) : Chunk.ofLines (l :: more) = [.heading level l] ++ Chunk.ofLines more := by
      rw [Chunk.ofLines, hkind, List.singleton_append]
    cases before with
    | nil =>
      obtain ⟨rfl, rfl⟩ := List.cons.inj h
      exact ⟨[], rest, rfl, hl rest, fun more _ => rfl⟩
    | cons first others =>
      obtain ⟨rfl, hothers⟩ := List.cons.inj h
      exact (ih hothers).cons hl
  | case4 l rest content hkind ih =>
    refine isCut_of_cons continuesList_of_kind (fun _ => rfl) (fun more => ?_) ih h
    rw [Chunk.ofLines, hkind]
  | case5 l rest indented hkind ih =>
    refine isCut_of_cons isText_of_kind (fun _ => rfl) (fun more => ?_) ih h
    rw [Chunk.ofLines, hkind]

/-! ## Paragraphs -/

/-- Lines of text up to the next other line are a paragraph. -/
theorem readBody_paragraph {first : NumberedLine} {indented : Bool} (hkind : first.kind = .text indented)
    {rest back : List NumberedLine} (hrest : ∀ l ∈ rest, l.isText = true) (hback : ∀ l ∈ back.head?, l.isText = false) :
    readBody (first :: rest ++ back) = readParagraph first rest :: readBody back := by
  unfold readBody
  rw [List.cons_append, Chunk.ofLines, hkind]
  simp only [takeWhile_append_eq_left hrest hback, dropWhile_append_eq_right hrest hback, List.map_cons]
  rfl

/-- Lines of text that are a paragraph: `readAll` reads the blocks `before` from the lines in front of it, whatever
follows them there, if it begins with a line of the same kind. -/
structure IsParagraph (readAll : List NumberedLine → List (Reading Block)) (before : List (Reading Block))
    (front : List NumberedLine) (first : NumberedLine) (rest back : List NumberedLine) : Prop where
  isText : ∀ l ∈ first :: rest, l.isText = true
  ends : ∀ l ∈ back.head?, l.isText = false
  readAll_append : ∀ more : List NumberedLine, more.head?.map NumberedLine.kind = some first.kind →
    readAll (front ++ more) = before ++ readBody more

/-- Other lines of text in the place of a paragraph change nothing but its own block. -/
theorem IsParagraph.replace {readAll : List NumberedLine → List (Reading Block)} {before : List (Reading Block)}
    {front rest back : List NumberedLine} {first : NumberedLine} (h : IsParagraph readAll before front first rest back)
    {first' : NumberedLine} {rest' back' : List NumberedLine} (hkind : first'.kind = first.kind)
    (hrest : ∀ l ∈ rest', l.isText = true)
    (hback : back'.head?.map NumberedLine.kind = back.head?.map NumberedLine.kind) :
    readAll (front ++ (first' :: rest' ++ back')) = before ++ readParagraph first' rest' :: readBody back' := by
  obtain ⟨indented, hfirst⟩ := isText_iff.1 (h.isText first List.mem_cons_self)
  have hends : ∀ l ∈ back'.head?, l.isText = false := by
    intro l hl
    rw [Option.mem_def.1 hl, Option.map_some] at hback
    obtain ⟨m, hm, hkinds⟩ := Option.map_eq_some_iff.1 hback.symm
    exact (isText_of_kind _ _ hkinds).symm.trans (h.ends m hm)
  rw [h.readAll_append (first' :: rest' ++ back') (congrArg some hkind),
    readBody_paragraph (hkind.trans hfirst) hrest hends]

section Requirement

variable {ls : List NumberedLine} {before after : List (Reading Block)} {read : Reading Block} {range : Range}
  {id : Phrase} {clause : Option Phrase} (hread : read.value = .requirement range id clause)

include hread

theorem exists_isParagraph_of_readBody (h : readBody ls = before ++ read :: after) :
    ∃ front first rest back, ls = front ++ (first :: rest ++ back) ∧ read = readParagraph first rest ∧
      after = readBody back ∧ IsParagraph readBody before front first rest back := by
  obtain ⟨earlier, more, hchunks, rfl, hmore⟩ := List.map_eq_append_iff.1 h
  obtain ⟨c, later, rfl, rfl, rfl⟩ := List.map_eq_cons_iff.1 hmore
  obtain ⟨front, back, hlines, hown, hcut⟩ := isCut_of_ofLines hchunks
  cases c with
  | heading level line => cases hread
  | list first rest => cases hread
  | paragraph first rest =>
    have hread (more : List NumberedLine) (hmore : more.head?.map NumberedLine.kind = some first.kind) :
        readBody (front ++ more) = earlier.map readChunk ++ readBody more := by
      unfold readBody
      rw [hcut more hmore, List.map_append]
    rw [Chunk.lines, List.cons_append, Chunk.ofLines] at hown
    split at hown
    · next hkind =>
      -- No chunk begins with a blank line.
      have hmem : first ∈ (Chunk.ofLines (rest ++ back)).flatMap Chunk.lines := by
        rw [hown, List.flatMap_cons]
        exact List.mem_append_left _ List.mem_cons_self
      rw [Chunk.flatMap_lines_ofLines] at hmem
      have hblank := (classify_eq_blank_iff first.text).1 hkind
      simp [hblank] at hmem
    · cases (List.cons.inj hown).1
    · cases (List.cons.inj hown).1
    · next indented hkind =>
      obtain ⟨hchunk, hlater⟩ := List.cons.inj hown
      obtain ⟨-, htake⟩ := Chunk.paragraph.inj hchunk
      have hback : (rest ++ back).dropWhile NumberedLine.isText = back := by
        have hsplit := List.takeWhile_append_dropWhile (p := NumberedLine.isText) (l := rest ++ back)
        rw [htake] at hsplit
        exact List.append_cancel_left hsplit
      rw [hback] at hlater
      have hfirst : first.isText = true := isText_iff.2 ⟨indented, hkind⟩
      have hrest : ∀ l ∈ rest, l.isText = true := by
        rw [← htake]
        exact fun l hl => List.mem_takeWhile_imp hl
      have hends : ∀ l ∈ back.head?, l.isText = false := by
        intro l hl
        have hhead := List.head?_dropWhile_not NumberedLine.isText (rest ++ back)
        rw [hback, Option.mem_def.1 hl] at hhead
        simpa using hhead
      exact ⟨front, first, rest, back, hlines, rfl, congrArg (List.map readChunk) hlater.symm,
        List.forall_mem_cons.2 ⟨hfirst, hrest⟩, hends, hread⟩

theorem exists_isParagraph_of_readLines (h : readLines ls = before ++ read :: after) :
    ∃ front first rest back, ls = front ++ (first :: rest ++ back) ∧ read = readParagraph first rest ∧
      after = readBody back ∧ IsParagraph readLines before front first rest back := by
  cases ls with
  | nil =>
    unfold readLines at h
    simp at h
  | cons l more =>
    rw [readLines_cons] at h
    split at h
    · next htitle =>
      cases before with
      | nil =>
        obtain ⟨rfl, -⟩ := List.cons.inj h
        cases hread
      | cons title earlier =>
        obtain ⟨rfl, hbody⟩ := List.cons.inj h
        obtain ⟨front, first, rest, back, rfl, hown, hafter, htext, hends, hcut⟩ :=
          exists_isParagraph_of_readBody hread hbody
        refine ⟨l :: front, first, rest, back, rfl, hown, hafter, htext, hends, fun others hothers => ?_⟩
        rw [List.cons_append, readLines_cons, if_pos htitle, hcut others hothers, List.cons_append]
    · next htitle =>
      obtain ⟨front, first, rest, back, hlines, hown, hafter, htext, hends, hcut⟩ :=
        exists_isParagraph_of_readBody hread h
      refine ⟨front, first, rest, back, hlines, hown, hafter, htext, hends, fun others hothers => ?_⟩
      cases front with
      | nil =>
        -- A text in the first line would be the title.
        obtain ⟨rfl, -⟩ := List.cons.inj hlines
        obtain ⟨indented, hkind⟩ := isText_iff.1 (htext l List.mem_cons_self)
        unfold isTitle at htitle
        rw [hkind] at htitle
        exact absurd rfl htitle
      | cons l' front =>
        obtain ⟨rfl, -⟩ := List.cons.inj hlines
        rw [← hcut others hothers, List.cons_append, readLines_cons, if_neg htitle]

end Requirement

end Traceability.Document
