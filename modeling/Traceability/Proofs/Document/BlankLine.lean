import Traceability.Proofs.Document.Partition
import Traceability.Proofs.Document.Shift
import Traceability.Proofs.Text.Fields
set_option autoImplicit false

/-!
# Documents that are cut at a blank line

A blank line ends every chunk, and only the first line of a document can be its title.  So a document with a blank
line in it is read as two documents, one after the other: the text in front of the blank line, and the text from the
blank line on, whose blocks stand further down by the lines in front.
-/

namespace Traceability

namespace Text

/-- Two texts with a line feed between them have the lines of both. -/
theorem lines_append_lineFeed (a b : String) : lines (a ++ "\n" ++ b) = lines a ++ lines b := by
  have htext : (a ++ "\n" ++ b).toList = a.toList ++ '\n' :: b.toList := by
    rw [String.toList_append, String.toList_append, List.append_assoc]
    rfl
  unfold lines
  rw [htext, fields_append_separator a.toList rfl, List.map_append]

end Text

namespace Document

open Text

/-! ## Chunks -/

/-- No chunk reaches across a blank line. -/
theorem ofLines_append_blank {blank : NumberedLine} (hblank : blank.kind = .blank) (ls more : List NumberedLine) :
    Chunk.ofLines (ls ++ blank :: more) = Chunk.ofLines ls ++ Chunk.ofLines (blank :: more) := by
  have hcontinues : blank.continuesList = false := by
    unfold NumberedLine.continuesList
    rw [hblank]
  have htext : blank.isText = false := by
    unfold NumberedLine.isText
    rw [hblank]
  fun_induction Chunk.ofLines ls with
  | case1 => rfl
  | case2 l rest h ih => rw [List.cons_append, Chunk.ofLines, h, ih]
  | case3 l rest level content h ih =>
    rw [List.cons_append, Chunk.ofLines, h]
    simp only [ih]
    rfl
  | case4 l rest content h ih =>
    rw [List.cons_append, Chunk.ofLines, h]
    simp only [takeWhile_append_cons hcontinues, dropWhile_append_cons hcontinues, ih]
    rfl
  | case5 l rest indented h ih =>
    rw [List.cons_append, Chunk.ofLines, h]
    simp only [takeWhile_append_cons htext, dropWhile_append_cons htext, ih]
    rfl

theorem readBody_append_blank {blank : NumberedLine} (hblank : blank.kind = .blank) (ls more : List NumberedLine) :
    readBody (ls ++ blank :: more) = readBody ls ++ readBody (blank :: more) := by
  unfold readBody
  rw [ofLines_append_blank hblank, List.map_append]

/-! ## Titles -/

/-- A blank first line is no title. -/
theorem readLines_blank_cons {blank : NumberedLine} (hblank : blank.kind = .blank) (more : List NumberedLine) :
    readLines (blank :: more) = readBody (blank :: more) := by
  have htitle : isTitle blank = false := by
    unfold isTitle
    rw [hblank]
  rw [readLines_cons, htitle]
  rfl

/-- The title, if there is one, belongs to what stands in front of the blank line. -/
theorem readLines_append_blank {ls : List NumberedLine} (hls : ls ≠ []) {blank : NumberedLine}
    (hblank : blank.kind = .blank) (more : List NumberedLine) :
    readLines (ls ++ blank :: more) = readLines ls ++ readBody (blank :: more) := by
  cases ls with
  | nil => exact absurd rfl hls
  | cons first rest =>
    rw [List.cons_append, readLines_cons, readLines_cons]
    split
    · rw [readBody_append_blank hblank, List.cons_append]
    · exact readBody_append_blank hblank (first :: rest) more

/-! ## Documents -/

theorem numbered_append (ls more : List Line) :
    numbered (ls ++ more) = numbered ls ++ (numbered more).map (NumberedLine.shift ls.length) := by
  have hmore : more.zipIdx ls.length = more.zipIdx.map fun entry => (entry.1, entry.2 + ls.length) := by
    rw [List.zipIdx_eq_map_add]
    exact List.map_congr_left fun entry _ => Prod.ext rfl (Nat.add_comm _ _)
  unfold numbered
  rw [List.zipIdx_append, List.map_append, Nat.zero_add, hmore, List.map_map, List.map_map]
  rfl

/-- Reading a text with a blank line in it is reading what stands in front of it, and then the rest from the blank line
on, whose blocks and faults stand further down by the lines in front. -/
theorem readLines_numbered_append_blank (a b : String) :
    readLines (numbered (lines (a ++ "\n\n" ++ b))) =
      readLines (numbered (lines a)) ++
        (readLines (numbered (lines ("\n" ++ b)))).map fun read =>
          read.shift (lines a).length (Block.shift (lines a).length) := by
  have htext : a ++ "\n\n" ++ b = a ++ "\n" ++ ("\n" ++ b) := by
    have hfeeds : ("\n\n" : String) = "\n" ++ "\n" := rfl
    rw [hfeeds, String.append_assoc, String.append_assoc, String.append_assoc]
  have hrest : lines ("\n" ++ b) = [] :: lines b := lines_append_lineFeed "" b
  have hfront : numbered (lines a) ≠ [] := by
    unfold numbered
    simp [lines_ne_nil]
  -- The blank line is the first of the rest, once moved down and once not.
  obtain ⟨more, hmore⟩ : ∃ more, numbered (lines ("\n" ++ b)) = ⟨0, []⟩ :: more := by
    rw [hrest]
    exact ⟨_, rfl⟩
  have hblank : (NumberedLine.mk 0 []).kind = .blank := rfl
  have hmoved : ((NumberedLine.mk 0 []).shift (lines a).length).kind = .blank := rfl
  calc
    readLines (numbered (lines (a ++ "\n\n" ++ b)))
        = readLines (numbered (lines a) ++ (⟨0, []⟩ :: more).map (NumberedLine.shift (lines a).length)) := by
          rw [htext, lines_append_lineFeed, numbered_append, hmore]
    _ = readLines (numbered (lines a)) ++ readBody ((⟨0, []⟩ :: more).map (NumberedLine.shift (lines a).length)) :=
          readLines_append_blank hfront hmoved _
    _ = _ := by
          rw [readBody_shift, hmore, readLines_blank_cons hblank]

/-- A document with a blank line in it has the blocks and the faults of the text in front of that line, followed by
those of the rest from the blank line on, further down by the lines in front. -/
theorem ofText_append_blank_line (a b : String) :
    (Document.ofText (a ++ "\n\n" ++ b)).blocks =
        (Document.ofText a).blocks ++ (Document.ofText ("\n" ++ b)).blocks.map (Block.shift (lines a).length) ∧
      (Document.ofText (a ++ "\n\n" ++ b)).faults =
        (Document.ofText a).faults ++
          (Document.ofText ("\n" ++ b)).faults.map (SyntaxFault.shift (lines a).length) := by
  unfold Document.ofText
  simp only [readLines_numbered_append_blank, List.map_append, List.flatMap_append, List.map_map, List.flatMap_map,
    List.map_flatMap]
  exact ⟨rfl, rfl⟩

end Document

end Traceability
