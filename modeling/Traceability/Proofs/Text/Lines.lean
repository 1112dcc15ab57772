import Traceability.Proofs.Text.Fields
set_option autoImplicit false

/-!
# Joining lines

Lines that are joined with either line ending are the lines of the text that results.  How the lines of a text end makes
no difference to what its lines are, also where the endings are mixed.
-/

namespace Traceability.Text

/-- The text does not reach beyond one line. -/
def IsOneLine (text : List Char) : Prop := ∀ c ∈ text, c ≠ '\r' ∧ c ≠ '\n'

instance (text : List Char) : Decidable (IsOneLine text) :=
  List.decidableBAll (fun c => c ≠ '\r' ∧ c ≠ '\n') text

theorem IsOneLine.append {s t : List Char} (hs : IsOneLine s) (ht : IsOneLine t) : IsOneLine (s ++ t) := by
  intro c hc
  rcases List.mem_append.1 hc with hc | hc
  · exact hs c hc
  · exact ht c hc

/-- How a line ends. -/
inductive LineEnding where
  | lineFeed
  | carriageReturnLineFeed

/-- The characters between two lines. -/
def LineEnding.text : LineEnding → List Char
  | lineFeed => ['\n']
  | carriageReturnLineFeed => ['\r', '\n']

/-- A carriage return belongs to the ending of its line. -/
theorem dropCarriageReturn_append {line : Line} (h : IsOneLine line) {front : List Char}
    (hfront : front = [] ∨ front = ['\r']) : dropCarriageReturn (line ++ front) = line := by
  unfold dropCarriageReturn
  rcases hfront with rfl | rfl
  · rw [List.append_nil]
    refine if_neg fun hlast => ?_
    exact (h '\r' (List.mem_of_getLast? hlast)).1 rfl
  · rw [List.getLast?_concat, if_pos rfl, List.dropLast_concat]

theorem LineEnding.exists_text_eq (ending : LineEnding) :
    ∃ front, ending.text = front ++ ['\n'] ∧ (front = [] ∨ front = ['\r']) := by
  cases ending with
  | lineFeed => exact ⟨[], rfl, .inl rfl⟩
  | carriageReturnLineFeed => exact ⟨['\r'], rfl, .inr rfl⟩

/-- Lines that are joined are the lines of the text. -/
theorem lines_intercalate (ending : LineEnding) {first : Line} {rest : List Line}
    (h : ∀ line ∈ first :: rest, IsOneLine line) :
    lines (String.ofList (ending.text.intercalate (first :: rest))) = first :: rest := by
  obtain ⟨front, hending, hfront⟩ := ending.exists_text_eq
  have hno (line : Line) (hline : IsOneLine line) : ∀ c ∈ line, (c == '\n') = false := by
    intro c hc
    simpa using (hline c hc).2
  unfold lines
  rw [String.toList_ofList]
  induction rest generalizing first with
  | nil =>
    have hfirst := h first List.mem_cons_self
    have hdrop := dropCarriageReturn_append hfirst (.inl rfl)
    rw [List.append_nil] at hdrop
    rw [List.intercalate_singleton, fields_eq_singleton (hno first hfirst), List.map_singleton, hdrop]
  | cons second others ih =>
    obtain ⟨hfirst, hrest⟩ := List.forall_mem_cons.1 h
    have hfields : ∀ c ∈ first ++ front, (c == '\n') = false := by
      intro c hc
      rcases List.mem_append.1 hc with hc | hc
      · exact hno first hfirst c hc
      · rcases hfront with rfl | rfl
        · cases hc
        · rw [List.mem_singleton.1 hc]
          rfl
    have hjoin : ending.text.intercalate (first :: second :: others) =
        first ++ front ++ '\n' :: ending.text.intercalate (second :: others) := by
      rw [List.intercalate_cons_cons, hending]
      simp only [List.append_assoc, List.cons_append, List.nil_append]
    rw [hjoin, fields_append_cons hfields rfl, List.map_cons, dropCarriageReturn_append hfirst hfront, ih hrest]

/-! ## Other endings -/

/-- The texts are the same apart from the endings of their lines, which are all line feeds in the first one. -/
inductive SameButEndings : List Char → List Char → Prop where
  | nil : SameButEndings [] []
  | char {c : Char} (hc : c ≠ '\r' ∧ c ≠ '\n') {s t : List Char} (h : SameButEndings s t) :
      SameButEndings (c :: s) (c :: t)
  | ending (e : LineEnding) {s t : List Char} (h : SameButEndings s t) : SameButEndings ('\n' :: s) (e.text ++ t)

/-- What stands on a line is the same in both texts. -/
theorem SameButEndings.append_line {line s t : List Char} (hline : IsOneLine line) (h : SameButEndings s t) :
    SameButEndings (line ++ s) (line ++ t) := by
  induction line with
  | nil => exact h
  | cons c rest ih =>
    obtain ⟨hc, hrest⟩ := List.forall_mem_cons.1 hline
    exact .char hc (ih hrest)

/-- A character that is no carriage return protects itself. -/
theorem dropCarriageReturn_cons {c : Char} (hc : c ≠ '\r') (line : Line) :
    dropCarriageReturn (c :: line) = c :: dropCarriageReturn line := by
  unfold dropCarriageReturn
  cases line with
  | nil => exact if_neg (by simpa using hc)
  | cons d rest =>
    rw [List.getLast?_cons_cons, List.dropLast_cons_cons]
    exact (apply_ite (c :: ·) _ _ _).symm

/-- The induction reads both texts character by character; where a line ends, both begin a new one. -/
theorem SameButEndings.map_fields_eq {s t : List Char} (h : SameButEndings s t) :
    (fields (· == '\n') t).map dropCarriageReturn = (fields (· == '\n') s).map dropCarriageReturn := by
  induction h with
  | nil => rfl
  | @char c hc s t _ ih =>
    have hline : (c == '\n') = false := beq_false_of_ne hc.2
    obtain ⟨first, others, hs⟩ := List.exists_cons_of_ne_nil (fields_ne_nil (· == '\n') s)
    obtain ⟨first', others', ht⟩ := List.exists_cons_of_ne_nil (fields_ne_nil (· == '\n') t)
    rw [hs, ht, List.map_cons, List.map_cons, List.cons.injEq] at ih
    rw [fields_cons_of_neg (p := (· == '\n')) hline hs, fields_cons_of_neg (p := (· == '\n')) hline ht, List.map_cons,
      List.map_cons, dropCarriageReturn_cons hc.1, dropCarriageReturn_cons hc.1, ih.1, ih.2]
  | @ending e s t _ ih =>
    obtain ⟨front, htext, hfront⟩ := e.exists_text_eq
    have hfields : fields (· == '\n') (e.text ++ t) = front :: fields (· == '\n') t := by
      rw [htext, List.append_assoc, List.singleton_append]
      apply fields_append_cons _ rfl
      rcases hfront with rfl | rfl
      · intro c hc
        cases hc
      · intro c hc
        rw [List.mem_singleton.1 hc]
        rfl
    have hnone : IsOneLine [] := fun c hc => absurd hc List.not_mem_nil
    have hempty : dropCarriageReturn front = [] := dropCarriageReturn_append hnone hfront
    rw [hfields, fields_cons_of_pos rfl, List.map_cons, List.map_cons, ih, hempty]
    rfl

/-- Texts that differ in the endings of their lines alone have the same lines. -/
theorem lines_eq_of_sameButEndings {s t : String} (h : SameButEndings s.toList t.toList) : lines t = lines s :=
  h.map_fields_eq

end Traceability.Text
