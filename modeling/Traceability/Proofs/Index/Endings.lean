import Traceability.Proofs.Index.Remarks
import Traceability.Proofs.Text.Lines
import Traceability.Word
set_option autoImplicit false

/-!
# Line endings do not count

A text is read line by line, so how its lines end has no influence: not on what is extracted from it, not on the word
under a cursor, and not on any index into which it is loaded.  The endings may be mixed in any way.
-/

namespace Traceability

open Text

/-! ## Readings of a text -/

section Readings

variable {s t : String} (h : lines t = lines s)

include h

theorem Extraction.ofText_congr (uri : String) (remarkUri : Option String) :
    ofText uri t remarkUri = ofText uri s remarkUri := by
  unfold ofText Document.ofText
  rw [h]

theorem Marker.scan_congr (uri marker : String) : scan uri t marker = scan uri s marker := by
  unfold scan
  rw [h]

theorem wordAtPosition_congr (p : Position) : wordAtPosition t p = wordAtPosition s p := by
  unfold wordAtPosition
  rw [h]

theorem Index.extract_congr (x : Index) (uri : String) : x.extract uri t = x.extract uri s := by
  unfold extract
  rw [Extraction.ofText_congr h, Marker.scan_congr h]

theorem Index.load_congr (x : Index) (uri : String) : x.load uri t = x.load uri s := by
  unfold load
  rw [x.extract_congr h uri]

theorem Index.analyze_congr (x : Index) (uri : String) : x.analyze uri t = x.analyze uri s := by
  unfold analyze
  rw [x.load_congr h uri]

end Readings

/-! ## Calls -/

/-- The calls are the same apart from the endings of the lines of their texts. -/
inductive FileCall.SameButEndings : FileCall → FileCall → Prop where
  | same (c : FileCall) : SameButEndings c c
  | load (uri : String) {s t : String} (h : Text.SameButEndings s.toList t.toList) :
      SameButEndings (.load uri s) (.load uri t)
  | analyze (uri : String) {s t : String} (h : Text.SameButEndings s.toList t.toList) :
      SameButEndings (.analyze uri s) (.analyze uri t)

/-- The calls are the same apart from the endings of the lines of their texts. -/
inductive Mutation.SameButEndings : Mutation → Mutation → Prop where
  | same (m : Mutation) : SameButEndings m m
  | file {c c' : FileCall} (h : FileCall.SameButEndings c c') : SameButEndings (.file c) (.file c')

namespace Index

variable (x : Index)

theorem call_eq_of_sameButEndings {c c' : FileCall} (h : c.SameButEndings c') : x.call c' = x.call c := by
  cases h with
  | same => rfl
  | load uri h => exact x.load_congr (lines_eq_of_sameButEndings h) uri
  | analyze uri h => exact congrArg Prod.fst (x.analyze_congr (lines_eq_of_sameButEndings h) uri)

theorem answer_eq_of_sameButEndings {c c' : FileCall} (h : c.SameButEndings c') :
    x.answer (.call c') = x.answer (.call c) := by
  cases h with
  | same => rfl
  | load uri h => rfl
  | analyze uri h =>
    unfold answer
    simp only [x.analyze_congr (lines_eq_of_sameButEndings h) uri]

theorem mutate_eq_of_sameButEndings {m m' : Mutation} (h : m.SameButEndings m') : x.mutate m' = x.mutate m := by
  cases h with
  | same => rfl
  | file h => exact x.call_eq_of_sameButEndings h

theorem mutateAll_eq_of_sameButEndings {ms ms' : List Mutation} (h : List.Forall₂ Mutation.SameButEndings ms ms') :
    x.mutateAll ms' = x.mutateAll ms := by
  induction h generalizing x with
  | nil => rfl
  | @cons m m' rest rest' hm _ ih =>
    calc (x.mutate m').mutateAll rest' = (x.mutate m).mutateAll rest' := by rw [x.mutate_eq_of_sameButEndings hm]
      _ = (x.mutate m).mutateAll rest := ih (x.mutate m)

/-- Texts that differ in the endings of their lines alone give the same extraction, as documents and as plain files, and
the same word at every position.  So an index gets into the same state, and answers the same, whichever of them it is
given at each call. -/
theorem line_endings_do_not_count :
    (∀ s t : String, SameButEndings s.toList t.toList →
      (∀ uri remarkUri, Extraction.ofText uri t remarkUri = Extraction.ofText uri s remarkUri) ∧
        (∀ uri marker, Marker.scan uri t marker = Marker.scan uri s marker) ∧
        ∀ p, wordAtPosition t p = wordAtPosition s p) ∧
      ∀ (x : Index) (ms ms' : List Mutation), List.Forall₂ Mutation.SameButEndings ms ms' →
        x.mutateAll ms' = x.mutateAll ms ∧
          ∀ c c' : FileCall, c.SameButEndings c' →
            (x.mutateAll ms').answer (.call c') = (x.mutateAll ms).answer (.call c) := by
  constructor
  · intro s t h
    have hlines := lines_eq_of_sameButEndings h
    exact ⟨Extraction.ofText_congr hlines, Marker.scan_congr hlines, wordAtPosition_congr hlines⟩
  · intro x ms ms' h
    have hstate := x.mutateAll_eq_of_sameButEndings h
    refine ⟨hstate, ?_⟩
    intro c c' hc
    rw [hstate]
    exact (x.mutateAll ms).answer_eq_of_sameButEndings hc

/-- A document in which both line endings are mixed, between two calls about it. -/
theorem line_endings_do_not_count_when_mixed :
    let s := "# *x*\n\n## *A*\n"
    let t := "# *x*\r\n\n## *A*\r\n"
    let x := empty {}
    SameButEndings s.toList t.toList ∧ Extraction.ofText "a" t none = Extraction.ofText "a" s none ∧
      Marker.scan "a" t "*" = Marker.scan "a" s "*" ∧ wordAtPosition t ⟨2, 4⟩ = wordAtPosition s ⟨2, 4⟩ ∧
      x.mutateAll [.file (.load "a.shalldn" t), .file .validateAll] =
        x.mutateAll [.file (.load "a.shalldn" s), .file .validateAll] ∧
      (x.mutateAll [.file (.load "a.shalldn" t), .file .validateAll]).answer (.call (.analyze "a.shalldn" t)) =
        (x.mutateAll [.file (.load "a.shalldn" s), .file .validateAll]).answer (.call (.analyze "a.shalldn" s)) := by
  intro s t x
  have htitle : IsOneLine "# *x*".toList := by
    decide
  have hheading : IsOneLine "## *A*".toList := by
    decide
  have hs : s.toList = "# *x*".toList ++ '\n' :: '\n' :: ("## *A*".toList ++ '\n' :: []) := by
    decide +kernel
  have ht : t.toList = "# *x*".toList ++ (['\r', '\n'] ++ (['\n'] ++ ("## *A*".toList ++ (['\r', '\n'] ++ [])))) := by
    decide +kernel
  have h : SameButEndings s.toList t.toList := by
    rw [hs, ht]
    exact .append_line htitle (.ending .carriageReturnLineFeed (.ending .lineFeed
      (.append_line hheading (.ending .carriageReturnLineFeed .nil))))
  obtain ⟨hextraction, hscan, hword⟩ := line_endings_do_not_count.1 s t h
  obtain ⟨hstate, hanswer⟩ := line_endings_do_not_count.2 x _ _
    (.cons (.file (.load "a.shalldn" h)) (.cons (.same (.file .validateAll)) .nil))
  exact ⟨h, hextraction "a" none, hscan "a" "*", hword ⟨2, 4⟩, hstate, hanswer _ _ (.analyze "a.shalldn" h)⟩

end Index

end Traceability
