import Traceability.Proofs.Document.Ranges
set_option autoImplicit false

/-!
# The source between two places

The lines of a block, joined again, are its source, and what stands between two places of the block is a part of it.
The reader puts that part together line by line, drops blanks at both ends of whole lines and writes a space for each
line ending.  None of this changes a character that is no blank, so it makes no difference when all that matters is
whether a single comma stands there.
-/

namespace Traceability

/-! ## Inked characters -/

namespace Text

/-- The characters of a text that are no blanks. -/
def inkOf (s : List Char) : List Char := s.filter fun c => !isBlank c

theorem cutsAtBlanks_inkOf : CutsAtBlanks inkOf := by
  refine ⟨rfl, fun {c} hc s t => ?_⟩
  unfold inkOf
  rw [List.filter_append, List.filter_cons_of_neg (by simp [hc])]

/-- Trimming leaves a single character just if it is the only one that is no blank. -/
theorem trim_eq_singleton_iff {c : Char} (hc : isBlank c = false) (s : List Char) :
    trim s = [c] ↔ inkOf s = [c] := by
  constructor
  · intro h
    rw [← cutsAtBlanks_inkOf.trim, h]
    exact List.filter_cons_of_pos (by simp [hc])
  · intro h
    obtain ⟨front, back, rfl, hfront, _, hback⟩ := List.filter_eq_cons_iff.1 h
    have hstart : trimStart (front ++ c :: back) = c :: back := by
      apply dropWhile_append_eq_right
      · intro d hd
        simpa using hfront d hd
      · intro d hd
        obtain rfl := Option.some.inj hd
        exact hc
    have hend : dropEndWhile isBlank back = [] := by
      have hblank : ∀ d ∈ back.reverse, isBlank d = true := by
        intro d hd
        simpa using List.filter_eq_nil_iff.1 hback d (List.mem_reverse.1 hd)
      unfold dropEndWhile
      rw [List.dropWhile_eq_nil_iff.2 hblank, List.reverse_nil]
    have hkept := dropEndWhile_append_cons hc [] back
    rw [hend] at hkept
    unfold trim trimEnd
    rw [hstart]
    exact hkept

end Text

namespace Document

open Text

/-! ## Sources -/

/-- The source of some lines, with a line feed between two of them. -/
def sourceOf (ls : List NumberedLine) : List Char := ['\n'].intercalate (ls.map NumberedLine.text)

/-- Some lines and the line feeds behind them. -/
def closedSource (ls : List NumberedLine) : List Char := ls.flatMap fun l => l.text ++ ['\n']

/-- Where a place is in the source of some lines. -/
def offsetIn (ls : List NumberedLine) (c : Cursor) : Nat :=
  (closedSource (ls.takeWhile fun l => l.number < c.line.number)).length + c.place

/-- The source from one place to another. -/
def sourceBetween (ls : List NumberedLine) (a b : Cursor) : List Char :=
  ((sourceOf ls).take (offsetIn ls b)).drop (offsetIn ls a)

theorem closedSource_cons (l : NumberedLine) (more : List NumberedLine) :
    closedSource (l :: more) = l.text ++ '\n' :: closedSource more := by
  unfold closedSource
  rw [List.flatMap_cons, List.append_assoc, List.singleton_append]

theorem closedSource_append (ls more : List NumberedLine) :
    closedSource (ls ++ more) = closedSource ls ++ closedSource more := List.flatMap_append

theorem sourceOf_cons (l : NumberedLine) (more : List NumberedLine) :
    sourceOf (l :: more) = l.text ++ more.flatMap fun m => '\n' :: m.text := by
  induction more generalizing l with
  | nil =>
    unfold sourceOf
    rw [List.map_singleton, List.intercalate_singleton, List.flatMap_nil, List.append_nil]
  | cons m others ih =>
    have hrest : ['\n'].intercalate (m.text :: others.map NumberedLine.text) = sourceOf (m :: others) := rfl
    unfold sourceOf
    rw [List.map_cons, List.map_cons, List.intercalate_cons_cons, hrest, ih m, List.flatMap_cons, List.append_assoc,
      List.singleton_append, List.cons_append]

theorem sourceOf_append_cons (front : List NumberedLine) (l : NumberedLine) (more : List NumberedLine) :
    sourceOf (front ++ l :: more) = closedSource front ++ sourceOf (l :: more) := by
  induction front with
  | nil => rfl
  | cons first others ih =>
    obtain ⟨second, rest, hrest⟩ : ∃ second rest, others ++ l :: more = second :: rest :=
      List.exists_cons_of_ne_nil (by simp)
    rw [hrest, sourceOf_cons] at ih
    rw [List.cons_append, hrest, sourceOf_cons, List.flatMap_cons, List.cons_append, ih, closedSource_cons,
      List.append_assoc, List.cons_append]

/-- Lines that are joined count one by one. -/
theorem cutsAtBlanks_closedSource {α : Type} {f : List Char → List α} (hf : CutsAtBlanks f)
    (ls : List NumberedLine) (t : List Char) :
    f (closedSource ls ++ t) = (ls.flatMap fun l => f l.text) ++ f t := by
  induction ls with
  | nil => rfl
  | cons l rest ih =>
    rw [closedSource_cons, List.append_assoc, List.cons_append, hf.append_cons (by decide), ih, List.flatMap_cons,
      List.append_assoc]

/-! ## Between two places -/

theorem IsConsecutive.pairwise_number_lt {ls : List NumberedLine} (h : IsConsecutive ls) :
    ls.Pairwise fun l m => l.number < m.number := by
  have hchain : (ls.map NumberedLine.number).IsChain (· < ·) := by
    rw [List.isChain_map]
    exact h.imp fun l m hnext => by omega
  exact List.pairwise_map.1 (List.isChain_iff_pairwise.1 hchain)

/-- Consecutive lines are cut at a line in one way only. -/
theorem IsConsecutive.append_cons_inj {front front' back back' : List NumberedLine} {l l' : NumberedLine}
    (h : IsConsecutive (front ++ l :: back)) (heq : front ++ l :: back = front' ++ l' :: back')
    (hnumber : l.number = l'.number) : front = front' ∧ l = l' ∧ back = back' := by
  have htake {front back : List NumberedLine} {l : NumberedLine} (h : IsConsecutive (front ++ l :: back)) :
      (front ++ l :: back).takeWhile (fun m => m.number < l.number) = front := by
    apply takeWhile_append_eq_left
    · intro m hm
      exact decide_eq_true ((List.pairwise_append.1 h.pairwise_number_lt).2.2 m hm l List.mem_cons_self)
    · intro m hm
      obtain rfl := Option.some.inj hm
      exact decide_eq_false (Nat.lt_irrefl _)
  have hfront : front = front' := by
    have hfirst := htake h
    rw [heq, hnumber, htake (heq ▸ h)] at hfirst
    exact hfirst.symm
  subst hfront
  obtain ⟨hl, hback⟩ := List.cons.inj (List.append_cancel_left heq)
  exact ⟨rfl, hl, hback⟩

/-- The place of a cursor is on its line. -/
def Cursor.IsOnLine (c : Cursor) : Prop := c.place ≤ c.line.text.length

section Between

variable {front back : List NumberedLine} {a b : Cursor}

theorem offsetIn_append (hfront : ∀ l ∈ front, l.number < a.line.number) (back : List NumberedLine) :
    offsetIn (front ++ back) a = (closedSource front).length + offsetIn back a := by
  have htake : (front ++ back).takeWhile (fun l => l.number < a.line.number) =
      front ++ back.takeWhile fun l => l.number < a.line.number :=
    List.takeWhile_append_of_pos fun l hl => decide_eq_true (hfront l hl)
  unfold offsetIn
  rw [htake, closedSource_append, List.length_append, Nat.add_assoc]

theorem offsetIn_cons_of_lt {l : NumberedLine} (h : l.number < a.line.number) (back : List NumberedLine) :
    offsetIn (l :: back) a = l.text.length + 1 + offsetIn back a := by
  have hall : ∀ m ∈ [l], m.number < a.line.number := by
    intro m hm
    rw [List.mem_singleton.1 hm]
    exact h
  have hlength : (closedSource [l]).length = l.text.length + 1 := by
    rw [closedSource_cons, List.length_append]
    rfl
  rw [← List.singleton_append, offsetIn_append hall, hlength]

theorem offsetIn_append_of_not_lt {l : NumberedLine} (h : ¬ l.number < a.line.number) (front back : List NumberedLine) :
    offsetIn (front ++ l :: back) a = offsetIn front a := by
  have htake : (front ++ l :: back).takeWhile (fun m => m.number < a.line.number) =
      front.takeWhile fun m => m.number < a.line.number :=
    takeWhile_append_cons (q := fun m : NumberedLine => m.number < a.line.number) (decide_eq_false h) front back
  unfold offsetIn
  rw [htake]

theorem offsetIn_cons_of_not_lt {l : NumberedLine} (h : ¬ l.number < a.line.number) (back : List NumberedLine) :
    offsetIn (l :: back) a = a.place := by
  have hnone : offsetIn ([] ++ l :: back) a = offsetIn [] a := offsetIn_append_of_not_lt h [] back
  exact hnone.trans (Nat.zero_add a.place)

/-- A place on one of some lines is a place in their source. -/
theorem offsetIn_le {ls : List NumberedLine} (ha : a.line ∈ ls) (hon : a.IsOnLine) :
    offsetIn ls a ≤ (closedSource ls).length := by
  have hplace : a.place ≤ a.line.text.length := hon
  have hsplit := List.takeWhile_append_dropWhile (p := fun l : NumberedLine => l.number < a.line.number) (l := ls)
  have hlater : a.line ∈ ls.dropWhile fun l => l.number < a.line.number := by
    rw [← hsplit] at ha
    rcases List.mem_append.1 ha with ha | ha
    · have hlt := List.mem_takeWhile_imp ha
      simp at hlt
    · exact ha
  obtain ⟨before, after, hdrop⟩ := List.append_of_mem hlater
  have hlength := congrArg (fun ls => (closedSource ls).length) hsplit
  rw [hdrop] at hlength
  simp only [closedSource_append, closedSource_cons, List.length_append, List.length_cons] at hlength
  unfold offsetIn
  omega

theorem offsetIn_append_cons (hfront : ∀ l ∈ front, l.number < a.line.number) :
    offsetIn (front ++ a.line :: back) a = (closedSource front).length + a.place := by
  rw [offsetIn_append hfront, offsetIn_cons_of_not_lt (Nat.lt_irrefl _)]

/-- The source up to a place is the lines in front of it and the start of its own line. -/
theorem take_sourceOf (hfront : ∀ l ∈ front, l.number < b.line.number) (hb : b.IsOnLine)
    (back : List NumberedLine) :
    (sourceOf (front ++ b.line :: back)).take (offsetIn (front ++ b.line :: back) b) =
      closedSource front ++ b.line.text.take b.place := by
  rw [offsetIn_append_cons hfront, sourceOf_append_cons, sourceOf_cons, List.take_length_add_append,
    List.take_append_of_le_length hb]

theorem sourceBetween_of_line_eq (hfront : ∀ l ∈ front, l.number < b.line.number) (hb : b.IsOnLine)
    (hline : a.line = b.line) (back : List NumberedLine) :
    sourceBetween (front ++ b.line :: back) a b = (b.line.text.take b.place).drop a.place := by
  have hoffset : offsetIn (front ++ b.line :: back) a = (closedSource front).length + a.place := by
    rw [← hline] at hfront ⊢
    exact offsetIn_append_cons hfront
  unfold sourceBetween
  rw [take_sourceOf hfront hb back, hoffset, List.drop_length_add_append]

variable {middle : List NumberedLine}

theorem sourceBetween_append (h : IsConsecutive (front ++ a.line :: (middle ++ b.line :: back))) (ha : a.IsOnLine)
    (hb : b.IsOnLine) :
    sourceBetween (front ++ a.line :: (middle ++ b.line :: back)) a b =
      a.line.text.drop a.place ++ '\n' :: (closedSource middle ++ b.line.text.take b.place) := by
  have hfront : ∀ l ∈ front, l.number < a.line.number := fun l hl =>
    (List.pairwise_append.1 h.pairwise_number_lt).2.2 l hl a.line List.mem_cons_self
  have hbefore : ∀ l ∈ front ++ a.line :: middle, l.number < b.line.number := by
    have hsplit : front ++ a.line :: (middle ++ b.line :: back) = (front ++ a.line :: middle) ++ b.line :: back := by
      rw [List.append_assoc, List.cons_append]
    have hpairwise := h.pairwise_number_lt
    rw [hsplit] at hpairwise
    exact fun l hl => (List.pairwise_append.1 hpairwise).2.2 l hl b.line List.mem_cons_self
  have htake := take_sourceOf hbefore hb back
  rw [List.append_assoc, List.cons_append] at htake
  unfold sourceBetween
  rw [htake, offsetIn_append_cons hfront, closedSource_append, closedSource_cons, List.append_assoc,
    List.drop_length_add_append, List.append_assoc, List.drop_append_of_le_length ha, List.cons_append]

/-- The lines that lie wholly between two places. -/
theorem filter_between (h : IsConsecutive (front ++ a.line :: (middle ++ b.line :: back))) :
    (front ++ a.line :: (middle ++ b.line :: back)).filter
      (fun l => a.line.number < l.number && l.number < b.line.number) = middle := by
  obtain ⟨_, hlater, hearlier⟩ := List.pairwise_append.1 h.pairwise_number_lt
  obtain ⟨ha, hmiddle⟩ := List.pairwise_cons.1 hlater
  obtain ⟨_, hback, hbetween⟩ := List.pairwise_append.1 hmiddle
  have hfront : front.filter (fun l => a.line.number < l.number && l.number < b.line.number) = [] := by
    refine List.filter_eq_nil_iff.2 fun l hl => ?_
    have hlt := hearlier l hl a.line List.mem_cons_self
    simp [hlt.le]
  have hkept : middle.filter (fun l => a.line.number < l.number && l.number < b.line.number) = middle := by
    refine List.filter_eq_self.2 fun l hl => ?_
    simp [ha l (List.mem_append_left _ hl), hbetween l hl b.line List.mem_cons_self]
  have hrest : (b.line :: back).filter (fun l => a.line.number < l.number && l.number < b.line.number) = [] := by
    refine List.filter_eq_nil_iff.2 fun l hl => ?_
    rcases List.mem_cons.1 hl with rfl | hl
    · simp
    · simp [((List.pairwise_cons.1 hback).1 l hl).le]
  rw [List.filter_append, hfront, List.filter_cons_of_neg (by simp), List.filter_append, hkept, hrest,
    List.append_nil, List.nil_append]

end Between

/-- What the reader puts together and what stands in the source differ in blanks only. -/
theorem cutsAtBlanks_textBetween {α : Type} {f : List Char → List α} (hf : CutsAtBlanks f) {ls : List NumberedLine}
    (h : IsConsecutive ls) {a b : Cursor} (ha : a.line ∈ ls) (hb : b.line ∈ ls) (honA : a.IsOnLine) (honB : b.IsOnLine)
    (hle : a.line.number ≤ b.line.number) : f (textBetween ls a b) = f (sourceBetween ls a b) := by
  obtain ⟨front, more, rfl⟩ := List.append_of_mem ha
  obtain ⟨_, hlater, hearlier⟩ := List.pairwise_append.1 h.pairwise_number_lt
  have hmem : b.line = a.line ∨ b.line ∈ more := by
    rcases List.mem_append.1 hb with hb | hb
    · have hlt := hearlier b.line hb a.line List.mem_cons_self
      omega
    · exact List.mem_cons.1 hb
  rcases hmem with hline | hmem
  · have hfront : ∀ l ∈ front, l.number < b.line.number := by
      intro l hl
      rw [hline]
      exact hearlier l hl a.line List.mem_cons_self
    have hsource := sourceBetween_of_line_eq hfront honB hline.symm more
    rw [hline] at hsource
    unfold textBetween
    rw [if_pos (by rw [hline]), hsource]
  · have hlt := (List.pairwise_cons.1 hlater).1 b.line hmem
    obtain ⟨middle, back, rfl⟩ := List.append_of_mem hmem
    unfold textBetween
    rw [if_neg hlt.ne]
    simp only [filter_between h]
    rw [hf.intercalate (by decide), sourceBetween_append h honA honB, hf.append_cons (by decide),
      cutsAtBlanks_closedSource hf, List.cons_append, List.flatMap_cons, List.flatMap_append, List.flatMap_map,
      List.flatMap_singleton]
    simp only [hf.trim]

end Document

end Traceability
