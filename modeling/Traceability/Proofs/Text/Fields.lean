import Mathlib.Data.List.TakeWhile
import Traceability.Text.Line
set_option autoImplicit false

/-!
# Cutting and joining

Joining stretches with a separator that none of them holds and cutting the text there again gives the same
stretches.
-/

namespace Traceability.Text

variable {p : Char → Bool}

theorem dropWhile_eq_self {s : List Char} (h : ∀ c ∈ s, p c = false) : s.dropWhile p = s := by
  cases s with
  | nil => rfl
  | cons c rest =>
    rw [List.dropWhile_cons_of_neg]
    rw [h c List.mem_cons_self]
    exact Bool.false_ne_true

theorem dropEndWhile_eq_self {s : List Char} (h : ∀ c ∈ s, p c = false) : dropEndWhile p s = s := by
  have hreverse : ∀ c ∈ s.reverse, p c = false := by
    intro c hc
    exact h c (List.mem_reverse.1 hc)
  unfold dropEndWhile
  rw [dropWhile_eq_self hreverse, List.reverse_reverse]

/-- What is dropped at the end of a text stood there. -/
theorem dropEndWhile_append_eq (p : Char → Bool) (s : List Char) :
    dropEndWhile p s ++ (s.reverse.takeWhile p).reverse = s := by
  unfold dropEndWhile
  rw [← List.reverse_append, List.takeWhile_append_dropWhile, List.reverse_reverse]

/-- What is left of a text does not end with a character that would be dropped. -/
theorem getLast?_dropEndWhile (p : Char → Bool) (s : List Char) : ∀ c ∈ (dropEndWhile p s).getLast?, p c = false := by
  intro c hc
  have hend := List.head?_dropWhile_not p s.reverse
  unfold dropEndWhile at hc
  rw [List.getLast?_reverse] at hc
  rw [Option.mem_def.1 hc] at hend
  simpa using hend

/-- A character that is not dropped protects all that stands in front of it. -/
theorem dropEndWhile_append_cons {c : Char} (hc : p c = false) (s t : List Char) :
    dropEndWhile p (s ++ c :: t) = s ++ c :: dropEndWhile p t := by
  have hkept : (c :: s.reverse).dropWhile p = c :: s.reverse := List.dropWhile_cons_of_neg (by simp [hc])
  have hsplit : (s ++ c :: t).reverse = t.reverse ++ c :: s.reverse := by
    simp only [List.reverse_append, List.reverse_cons, List.append_assoc, List.singleton_append]
  unfold dropEndWhile
  rw [hsplit, List.dropWhile_append, hkept]
  split
  · next hnone => simp [List.isEmpty_iff.1 hnone]
  · simp

/-! ## Stretches -/

section Stretch

variable {α : Type} {q : α → Bool} {s t : List α} (hs : ∀ x ∈ s, q x = true) (ht : ∀ x ∈ t.head?, q x = false)

include hs ht

/-- A stretch ends in front of the first element that does not belong to it. -/
theorem takeWhile_append_eq_left : (s ++ t).takeWhile q = s := by
  have hstop : t.takeWhile q = [] := by
    cases t with
    | nil => rfl
    | cons x rest => exact List.takeWhile_cons_of_neg (by simp [ht x rfl])
  rw [List.takeWhile_append_of_pos hs, hstop, List.append_nil]

theorem dropWhile_append_eq_right : (s ++ t).dropWhile q = t := by
  rw [List.dropWhile_append_of_pos hs]
  cases t with
  | nil => rfl
  | cons x rest => exact List.dropWhile_cons_of_neg (by simp [ht x rfl])

end Stretch

section Stop

variable {α : Type} {q : α → Bool} {x : α} (hx : q x = false) (s t : List α)

include hx

/-- No stretch reaches beyond an element that does not belong to one. -/
theorem takeWhile_append_cons : (s ++ x :: t).takeWhile q = s.takeWhile q := by
  induction s with
  | nil => rw [List.nil_append, List.takeWhile_cons_of_neg (by simp [hx]), List.takeWhile_nil]
  | cons y rest ih =>
    cases hy : q y with
    | true => rw [List.cons_append, List.takeWhile_cons_of_pos hy, List.takeWhile_cons_of_pos hy, ih]
    | false =>
      rw [List.cons_append, List.takeWhile_cons_of_neg (by simp [hy]), List.takeWhile_cons_of_neg (by simp [hy])]

theorem dropWhile_append_cons : (s ++ x :: t).dropWhile q = s.dropWhile q ++ x :: t := by
  induction s with
  | nil => rw [List.nil_append, List.dropWhile_cons_of_neg (by simp [hx]), List.dropWhile_nil, List.nil_append]
  | cons y rest ih =>
    cases hy : q y with
    | true => rw [List.cons_append, List.dropWhile_cons_of_pos hy, List.dropWhile_cons_of_pos hy, ih]
    | false =>
      rw [List.cons_append, List.dropWhile_cons_of_neg (by simp [hy]), List.dropWhile_cons_of_neg (by simp [hy]),
        List.cons_append]

end Stop

/-! ## Fields -/

section Fields

variable {α : Type} {p : α → Bool}

theorem fields_cons_of_pos {c : α} (hc : p c = true) (s : List α) : fields p (c :: s) = [] :: fields p s := by
  rw [fields, if_pos hc]

theorem fields_cons_of_neg {c : α} {s first : List α} {others : List (List α)} (hc : p c = false)
    (h : fields p s = first :: others) : fields p (c :: s) = (c :: first) :: others := by
  rw [fields, hc, h]
  rfl

/-- What stands in front of the first separator belongs to the first field. -/
theorem fields_append_of_neg {s t first : List α} {others : List (List α)} (hs : ∀ c ∈ s, p c = false)
    (h : fields p t = first :: others) : fields p (s ++ t) = (s ++ first) :: others := by
  induction s with
  | nil => exact h
  | cons c rest ih =>
    obtain ⟨hc, hrest⟩ := List.forall_mem_cons.1 hs
    exact fields_cons_of_neg hc (ih hrest)

/-- An element is a separator, or it is in one of the fields. -/
theorem exists_mem_fields {s : List α} {c : α} (h : c ∈ s) : p c = true ∨ ∃ field ∈ fields p s, c ∈ field := by
  induction s with
  | nil => cases h
  | cons d rest ih =>
    cases hd : p d with
    | true =>
      rw [fields_cons_of_pos hd]
      rcases List.mem_cons.1 h with rfl | h
      · exact .inl hd
      · exact (ih h).imp_right fun ⟨field, hfield, hc⟩ => ⟨field, List.mem_cons_of_mem _ hfield, hc⟩
    | false =>
      obtain ⟨first, others, hrest⟩ := List.exists_cons_of_ne_nil (fields_ne_nil p rest)
      rw [hrest] at ih
      rw [fields_cons_of_neg hd hrest]
      rcases List.mem_cons.1 h with rfl | h
      · exact .inr ⟨_, List.mem_cons_self, List.mem_cons_self⟩
      · refine (ih h).imp_right fun ⟨field, hfield, hc⟩ => ?_
        rcases List.mem_cons.1 hfield with rfl | hfield
        · exact ⟨_, List.mem_cons_self, List.mem_cons_of_mem d hc⟩
        · exact ⟨field, List.mem_cons_of_mem _ hfield, hc⟩

/-- What is in a field is in the text, and it is no separator. -/
theorem of_mem_fields {s field : List α} (h : field ∈ fields p s) {c : α} (hc : c ∈ field) :
    c ∈ s ∧ p c = false := by
  induction s generalizing field with
  | nil =>
    obtain rfl := List.mem_singleton.1 h
    cases hc
  | cons d rest ih =>
    have hlater {others : List α} (hothers : others ∈ fields p rest) (hmem : c ∈ others) :
        c ∈ d :: rest ∧ p c = false :=
      (ih hothers hmem).imp_left (List.mem_cons_of_mem d)
    cases hd : p d with
    | true =>
      rw [fields_cons_of_pos hd] at h
      rcases List.mem_cons.1 h with rfl | h
      · cases hc
      · exact hlater h hc
    | false =>
      obtain ⟨first, others, hrest⟩ := List.exists_cons_of_ne_nil (fields_ne_nil p rest)
      rw [hrest] at hlater
      rw [fields_cons_of_neg hd hrest] at h
      rcases List.mem_cons.1 h with rfl | h
      · rcases List.mem_cons.1 hc with rfl | hc
        · exact ⟨List.mem_cons_self, hd⟩
        · exact hlater List.mem_cons_self hc
      · exact hlater (List.mem_cons_of_mem _ h) hc

/-- No field holds a separator. -/
theorem eq_false_of_mem_fields {s field : List α} (h : field ∈ fields p s) {c : α} (hc : c ∈ field) :
    p c = false := (of_mem_fields h hc).2

/-- A text without separators is one field. -/
theorem fields_eq_singleton {s : List α} (h : ∀ c ∈ s, p c = false) : fields p s = [s] := by
  induction s with
  | nil => rfl
  | cons c rest ih =>
    obtain ⟨hc, hrest⟩ := List.forall_mem_cons.1 h
    exact fields_cons_of_neg hc (ih hrest)

/-- The fields in front of a separator and those behind it do not touch each other. -/
theorem fields_append_separator (s : List α) {mark : α} (hmark : p mark = true) (rest : List α) :
    fields p (s ++ mark :: rest) = fields p s ++ fields p rest := by
  induction s with
  | nil => exact fields_cons_of_pos hmark rest
  | cons c others ih =>
    rw [List.cons_append]
    cases hc : p c with
    | true => rw [fields_cons_of_pos hc, fields_cons_of_pos hc, ih, List.cons_append]
    | false =>
      cases hfirst : fields p others with
      | nil => exact absurd hfirst (fields_ne_nil p others)
      | cons first fieldsAfter =>
        rw [hfirst] at ih
        rw [fields_cons_of_neg hc ih, fields_cons_of_neg hc hfirst]
        rfl

/-- A separator ends the first field. -/
theorem fields_append_cons {s : List α} (h : ∀ c ∈ s, p c = false) {mark : α} (hmark : p mark = true)
    (rest : List α) : fields p (s ++ mark :: rest) = s :: fields p rest := by
  rw [fields_append_separator s hmark, fields_eq_singleton h]
  rfl

theorem fields_intercalate {mark : α} (hmark : p mark = true) {stretches : List (List α)}
    (hne : stretches ≠ []) (h : ∀ s ∈ stretches, ∀ c ∈ s, p c = false) :
    fields p ([mark].intercalate stretches) = stretches := by
  induction stretches with
  | nil => exact absurd rfl hne
  | cons first rest ih =>
    obtain ⟨hfirst, hrest⟩ := List.forall_mem_cons.1 h
    cases rest with
    | nil =>
      rw [List.intercalate_singleton]
      exact fields_eq_singleton hfirst
    | cons second others =>
      rw [List.intercalate_cons_cons, List.append_assoc, List.singleton_append, fields_append_cons hfirst hmark,
        ih (List.cons_ne_nil _ _) hrest]

theorem mem_intercalate {mark c : α} {stretches : List (List α)} (h : c ∈ [mark].intercalate stretches) :
    c = mark ∨ ∃ s ∈ stretches, c ∈ s := by
  induction stretches with
  | nil => cases h
  | cons first rest ih =>
    cases rest with
    | nil =>
      rw [List.intercalate_singleton] at h
      exact .inr ⟨first, List.mem_cons_self, h⟩
    | cons second others =>
      rw [List.intercalate_cons_cons, List.append_assoc, List.singleton_append] at h
      rcases List.mem_append.1 h with hfirst | hrest
      · exact .inr ⟨first, List.mem_cons_self, hfirst⟩
      · rcases List.mem_cons.1 hrest with rfl | hothers
        · exact .inl rfl
        · rcases ih hothers with hmark | ⟨s, hs, hc⟩
          · exact .inl hmark
          · exact .inr ⟨s, List.mem_cons_of_mem _ hs, hc⟩

theorem intercalate_suffix (mark : List α) (front back : List (List α)) :
    mark.intercalate back <:+ mark.intercalate (front ++ back) := by
  induction front with
  | nil => exact List.suffix_rfl
  | cons first others ih =>
    rw [List.cons_append]
    cases hrest : others ++ back with
    | nil =>
      rw [(List.append_eq_nil_iff.1 hrest).2]
      exact List.nil_suffix
    | cons second more =>
      rw [hrest] at ih
      rw [List.intercalate_cons_cons]
      exact ih.trans (List.suffix_append _ _)

end Fields

/-! ## Cutting at blanks -/

/-- The function takes a text apart at its blanks, of which it keeps nothing. -/
structure CutsAtBlanks {α : Type} (f : List Char → List α) : Prop where
  nil : f [] = []
  append_cons {c : Char} (hc : isBlank c = true) (s t : List Char) : f (s ++ c :: t) = f s ++ f t

namespace CutsAtBlanks

variable {α : Type} {f : List Char → List α} (hf : CutsAtBlanks f)

include hf

theorem cons {c : Char} (hc : isBlank c = true) (s : List Char) : f (c :: s) = f s := by
  rw [← List.nil_append (c :: s), hf.append_cons hc, hf.nil, List.nil_append]

section Gap

variable {gap : List Char} (h : ∀ c ∈ gap, isBlank c = true) (s : List Char)

include h

theorem append_left : f (gap ++ s) = f s := by
  induction gap with
  | nil => rfl
  | cons c rest ih =>
    obtain ⟨hc, hrest⟩ := List.forall_mem_cons.1 h
    rw [List.cons_append, hf.cons hc, ih hrest]

theorem append_gap (hne : gap ≠ []) (t : List Char) : f (s ++ (gap ++ t)) = f s ++ f t := by
  obtain ⟨c, rest, rfl⟩ := List.exists_cons_of_ne_nil hne
  obtain ⟨hc, hrest⟩ := List.forall_mem_cons.1 h
  rw [List.cons_append, hf.append_cons hc, hf.append_left hrest]

theorem append_right : f (s ++ gap) = f s := by
  by_cases hne : gap = []
  · rw [hne, List.append_nil]
  · have happend := hf.append_gap h s hne []
    rwa [List.append_nil, hf.nil, List.append_nil] at happend

end Gap

theorem trimStart (s : List Char) : f (trimStart s) = f s := by
  have hblank : ∀ c ∈ s.takeWhile isBlank, isBlank c = true := fun c hc => List.mem_takeWhile_imp hc
  calc f (Text.trimStart s) = f (s.takeWhile isBlank ++ Text.trimStart s) := (hf.append_left hblank _).symm
    _ = f s := congrArg f List.takeWhile_append_dropWhile

theorem trimEnd (s : List Char) : f (trimEnd s) = f s := by
  have hblank : ∀ c ∈ (s.reverse.takeWhile isBlank).reverse, isBlank c = true := fun c hc =>
    List.mem_takeWhile_imp (List.mem_reverse.1 hc)
  calc f (Text.trimEnd s) = f (Text.trimEnd s ++ (s.reverse.takeWhile isBlank).reverse) :=
        (hf.append_right hblank _).symm
    _ = f s := congrArg f (dropEndWhile_append_eq isBlank s)

/-- Blanks at both ends do not count. -/
theorem trim (s : List Char) : f (trim s) = f s := by
  unfold Text.trim
  rw [hf.trimEnd, hf.trimStart]

/-- A blank between two stretches cuts them apart. -/
theorem intercalate {mark : Char} (hmark : isBlank mark = true) (stretches : List (List Char)) :
    f ([mark].intercalate stretches) = stretches.flatMap f := by
  induction stretches with
  | nil => exact hf.nil
  | cons first rest ih =>
    cases rest with
    | nil => rw [List.intercalate_singleton, List.flatMap_singleton]
    | cons second others =>
      rw [List.intercalate_cons_cons, List.append_assoc, List.singleton_append, hf.append_cons hmark, ih,
        ← List.flatMap_cons]

end CutsAtBlanks

/-! ## Words -/

theorem words_nil : words [] = [] := rfl

theorem words_append_blank {mark : Char} (hmark : isBlank mark = true) (s t : List Char) :
    words (s ++ mark :: t) = words s ++ words t := by
  unfold words
  rw [fields_append_separator s hmark, List.filter_append]

theorem cutsAtBlanks_words : CutsAtBlanks words := ⟨words_nil, words_append_blank⟩

theorem words_of_inked {s : List Char} (hne : s ≠ []) (h : ∀ c ∈ s, isBlank c = false) : words s = [s] := by
  unfold words
  rw [fields_eq_singleton h, List.filter_cons_of_pos (by simp [hne]), List.filter_nil]

theorem words_ne_nil {s : List Char} {c : Char} (hc : c ∈ s) (hinked : isBlank c = false) : words s ≠ [] := by
  rcases exists_mem_fields (p := isBlank) hc with hblank | ⟨field, hfield, hmem⟩
  · rw [hinked] at hblank
    cases hblank
  · refine List.ne_nil_of_mem (List.mem_filter.2 ⟨hfield, ?_⟩)
    simp [List.ne_nil_of_mem hmem]

/-- A word is not empty and holds no blank. -/
theorem of_mem_words {s word : List Char} (h : word ∈ words s) : word ≠ [] ∧ ∀ c ∈ word, isBlank c = false := by
  obtain ⟨hfield, hne⟩ := List.mem_filter.1 h
  refine ⟨?_, fun c hc => eq_false_of_mem_fields hfield hc⟩
  rintro rfl
  cases hne

/-- Collapsing a text keeps its words. -/
theorem words_collapse (s : List Char) : words (collapse s) = words s := by
  have hspace : isBlank ' ' = true := by decide
  have hword : ∀ word ∈ words s, words word = [word] := fun word h =>
    words_of_inked (of_mem_words h).1 (of_mem_words h).2
  unfold collapse
  rw [cutsAtBlanks_words.intercalate hspace, List.flatMap_def, List.map_congr_left hword, ← List.flatMap_def,
    List.flatMap_singleton']

theorem collapse_eq_nil_iff (s : List Char) : collapse s = [] ↔ ∀ c ∈ s, isBlank c = true := by
  constructor
  · intro h c hc
    have hnone : words s = [] := by rw [← words_collapse, h, words_nil]
    by_contra hinked
    exact words_ne_nil hc (Bool.eq_false_iff.2 hinked) hnone
  · intro h
    have hnone := cutsAtBlanks_words.append_left h []
    rw [List.append_nil, words_nil] at hnone
    rw [collapse, hnone, List.intercalate_nil]

theorem trim_eq_self {s : List Char} (h : ∀ c ∈ s, isBlank c = false) : trim s = s := by
  unfold trim trimStart trimEnd
  rw [dropWhile_eq_self h, dropEndWhile_eq_self h]

theorem isBlank_head?_trim (s : List Char) : ∀ c ∈ (trim s).head?, isBlank c = false := by
  intro c hc
  have hstart := List.head?_dropWhile_not isBlank s
  unfold trim trimStart at hc
  cases hdrop : s.dropWhile isBlank with
  | nil =>
    rw [hdrop] at hc
    cases hc
  | cons d rest =>
    rw [hdrop] at hc hstart
    have hd : isBlank d = false := by simpa using hstart
    have hkept : trimEnd (d :: rest) = d :: trimEnd rest := dropEndWhile_append_cons hd [] rest
    rw [hkept] at hc
    obtain rfl := Option.some.inj hc
    exact hd

theorem isBlank_getLast?_trim (s : List Char) : ∀ c ∈ (trim s).getLast?, isBlank c = false :=
  getLast?_dropEndWhile isBlank (trimStart s)

/-- A single word is what is left when the blanks at both ends are dropped. -/
theorem trim_eq_collapse {s : List Char} (h : ∀ c ∈ collapse s, isBlank c = false) : trim s = collapse s := by
  have hcollapse : collapse s = [' '].intercalate (words (trim s)) := by
    rw [cutsAtBlanks_words.trim]
    rfl
  by_cases hinked : ∀ c ∈ trim s, isBlank c = false
  · rw [hcollapse]
    cases htrim : trim s with
    | nil => rfl
    | cons c rest =>
      rw [htrim] at hinked
      rw [words_of_inked (List.cons_ne_nil c rest) hinked, List.intercalate_singleton]
  · -- A blank in the middle would stand between two words.
    obtain ⟨b, hb, hblank⟩ : ∃ b ∈ trim s, isBlank b = true := by simpa using hinked
    obtain ⟨front, back, hsplit⟩ := List.append_of_mem hb
    have hhead := isBlank_head?_trim s
    have hlast := isBlank_getLast?_trim s
    rw [hsplit] at hhead hlast hcollapse
    have hfront : words front ≠ [] := by
      cases front with
      | nil => exact absurd (hhead b rfl) (by simp [hblank])
      | cons d rest => exact words_ne_nil List.mem_cons_self (hhead d rfl)
    have hback : words back ≠ [] := by
      cases hrest : back.getLast? with
      | none =>
        rw [List.getLast?_eq_none_iff.1 hrest, List.getLast?_concat] at hlast
        exact absurd (hlast b rfl) (by simp [hblank])
      | some d =>
        rw [List.getLast?_append, List.getLast?_cons, hrest] at hlast
        exact words_ne_nil (List.mem_of_getLast? hrest) (hlast d rfl)
    obtain ⟨w, ws, hw⟩ := List.exists_cons_of_ne_nil hfront
    obtain ⟨v, vs, hv⟩ := List.exists_cons_of_ne_nil (List.append_ne_nil_of_right_ne_nil ws hback)
    rw [words_append_blank hblank, hw, List.cons_append, hv, List.intercalate_cons_cons] at hcollapse
    have hspace : ' ' ∈ collapse s := by simp [hcollapse]
    exact absurd (h ' ' hspace) (by decide)

end Traceability.Text
