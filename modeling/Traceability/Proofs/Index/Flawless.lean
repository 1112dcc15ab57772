import Traceability.Proofs.Extraction.Categories
import Traceability.Proofs.Index.Findings
set_option autoImplicit false

/-!
# When nothing is wrong

A project without findings is one in which no text is at fault by itself, no id is defined twice, and the ids that are
defined are just those to which something refers.

That no id is defined twice is a matter of all texts at once, while an index tells repetitions file by file, each against
the files before it.  `flatMap_duplicateFindings` puts the two together: told one file after the other, the repetitions are
those of the definitions of all texts in a row.
-/

namespace Traceability.Index

/-- Nothing is wrong in a project with some texts. -/
structure IsFlawless (options : Options) (texts : List (String × String)) : Prop where
  /-- No text is at fault by itself. -/
  sound : ∀ live ∈ texts, ∀ f ∈ (contribution options live).findings, f.category ∉ Category.internal
  /-- No id is defined twice. -/
  single : ((definitionsIn options texts).map Definition.id).Nodup
  /-- What is defined is what something refers to. -/
  matched : ∀ id, id ∈ (definitionsIn options texts).map Definition.id ↔
    id ∈ (referencesIn options texts).map Reference.id

section Repetitions

variable {options : Options}

/-! ## Repetitions -/

theorem duplicateFindings_append (before ds later : List Definition) :
    duplicateFindings options before (ds ++ later) =
      duplicateFindings options before ds ++ duplicateFindings options (before ++ ds) later := by
  induction ds generalizing before with
  | nil => simp [duplicateFindings]
  | cons d rest ih =>
    rw [List.cons_append, duplicateFindings, duplicateFindings, ih, List.append_assoc, List.singleton_append]
    cases before.find? (·.id == d.id) with
    | none => rfl
    | some first => rfl

theorem duplicateFindings_eq_nil_iff (before ds : List Definition) :
    duplicateFindings options before ds = [] ↔
      (∀ e ∈ before, ∀ d ∈ ds, e.id ≠ d.id) ∧ (ds.map Definition.id).Nodup := by
  induction ds generalizing before with
  | nil => simp [duplicateFindings]
  | cons d rest ih =>
    have hstep : duplicateFindings options before (d :: rest) = [] ↔
        before.find? (·.id == d.id) = none ∧ duplicateFindings options (before ++ [d]) rest = [] := by
      rw [duplicateFindings]
      cases before.find? (·.id == d.id) with
      | none => simp
      | some first => simp
    rw [hstep, ih, List.find?_eq_none, List.map_cons, List.nodup_cons, List.mem_map]
    constructor
    · rintro ⟨hfirst, hapart, hrest⟩
      refine ⟨?_, ?_, hrest⟩
      · intro e he d' hd'
        rcases List.mem_cons.1 hd' with rfl | hd'
        · simpa using hfirst e he
        · exact hapart e (List.mem_append_left _ he) d' hd'
      · rintro ⟨d', hd', hid⟩
        exact hapart d (List.mem_append_right _ List.mem_cons_self) d' hd' hid.symm
    · rintro ⟨hapart, hnew, hrest⟩
      refine ⟨?_, ?_, hrest⟩
      · intro e he
        simpa using hapart e he d List.mem_cons_self
      · intro e he d' hd'
        rcases List.mem_append.1 he with he | he
        · exact hapart e he d' (List.mem_cons_of_mem d hd')
        · rw [List.mem_singleton] at he
          subst he
          exact fun hid => hnew ⟨d', hd', hid.symm⟩

theorem definitionsIn_append (texts later : List (String × String)) :
    definitionsIn options (texts ++ later) = definitionsIn options texts ++ definitionsIn options later :=
  List.flatMap_append

theorem takeWhile_append_of_mem {α : Type} {p : α → Bool} {a : α} {xs : List α} (ha : a ∈ xs) (hp : p a = false)
    (ys : List α) : (xs ++ ys).takeWhile p = xs.takeWhile p := by
  induction xs with
  | nil => cases ha
  | cons x rest ih =>
    rw [List.cons_append, List.takeWhile_cons, List.takeWhile_cons]
    cases hx : p x with
    | false => rfl
    | true =>
      have hrest : a ∈ rest := by
        rcases List.mem_cons.1 ha with rfl | hrest
        · rw [hp] at hx
          cases hx
        · exact hrest
      rw [if_pos rfl, if_pos rfl, ih hrest]

/-- The repetitions of all files, each told against the files before it, are those of all definitions in a row. -/
theorem flatMap_duplicateFindings {texts : List (String × String)} (h : (texts.map Prod.fst).Nodup) :
    (texts.flatMap fun live => duplicateFindings options (definitionsIn options (texts.takeWhile (·.1 != live.1)))
        (contribution options live).definitions) =
      duplicateFindings options [] (definitionsIn options texts) := by
  -- A text is told against those before it, so the induction is from the end.
  induction texts using List.reverseRecOn with
  | nil => rfl
  | append_singleton texts last ih =>
    rw [List.map_append, List.nodup_append] at h
    obtain ⟨htexts, _, hlast⟩ := h
    have hearlier : ∀ live ∈ texts, (texts ++ [last]).takeWhile (·.1 != live.1) = texts.takeWhile (·.1 != live.1) :=
      fun live hlive => takeWhile_append_of_mem hlive (by simp) [last]
    have hall : (texts ++ [last]).takeWhile (·.1 != last.1) = texts := by
      rw [List.takeWhile_append_of_pos]
      · simp
      · intro live hlive
        simpa using hlast _ (List.mem_map_of_mem hlive) last.1 (by simp)
    have hsingle : definitionsIn options [last] = (contribution options last).definitions := by
      simp [definitionsIn]
    rw [List.flatMap_append, definitionsIn_append, duplicateFindings_append, ← ih htexts, List.flatMap_singleton,
      hall, hsingle, List.nil_append]
    congr 1
    apply List.flatMap_congr
    intro live hlive
    rw [hearlier live hlive]

end Repetitions

/-! ## All findings -/

section Findings

variable {options : Options} {texts : List (String × String)}

theorem expectedFindings_eq_nil_iff (uri text : String) :
    expectedFindings options texts uri text = [] ↔
      (contribution options (uri, text)).findings = [] ∧
      duplicateFindings options (definitionsIn options (texts.takeWhile (·.1 != uri)))
        (contribution options (uri, text)).definitions = [] ∧
      (∀ r ∈ (contribution options (uri, text)).references, r.id ∈ (definitionsIn options texts).map Definition.id) ∧
      ∀ d ∈ (contribution options (uri, text)).definitions, d.id ∈ (referencesIn options texts).map Reference.id := by
  unfold expectedFindings
  simp only [List.append_eq_nil_iff, List.map_eq_nil_iff, List.filter_eq_nil_iff, Bool.not_eq_true, Bool.not_eq_false',
    List.any_eq_true, beq_iff_eq, List.mem_map, and_assoc]

/-- Nothing is found in any file of a project just if it is flawless. -/
theorem forall_expectedFindings_eq_nil_iff (h : (texts.map Prod.fst).Nodup) :
    (∀ live ∈ texts, expectedFindings options texts live.1 live.2 = []) ↔ IsFlawless options texts := by
  have hrepetitions : (∀ live ∈ texts,
      duplicateFindings options (definitionsIn options (texts.takeWhile (·.1 != live.1)))
        (contribution options live).definitions = []) ↔ ((definitionsIn options texts).map Definition.id).Nodup := by
    rw [← List.flatMap_eq_nil_iff, flatMap_duplicateFindings h, duplicateFindings_eq_nil_iff]
    simp
  simp only [expectedFindings_eq_nil_iff]
  constructor
  · intro hnone
    refine ⟨?_, hrepetitions.1 fun live hlive => (hnone live hlive).2.1, ?_⟩
    · intro live hlive f hf
      rw [(hnone live hlive).1] at hf
      cases hf
    · intro id
      constructor
      · intro hid
        obtain ⟨d, hd, rfl⟩ := List.mem_map.1 hid
        obtain ⟨live, hlive, hmem⟩ := List.mem_flatMap.1 hd
        exact (hnone live hlive).2.2.2 d hmem
      · intro hid
        obtain ⟨r, hr, rfl⟩ := List.mem_map.1 hid
        obtain ⟨live, hlive, hmem⟩ := List.mem_flatMap.1 hr
        exact (hnone live hlive).2.2.1 r hmem
  · intro hflawless live hlive
    refine ⟨?_, hrepetitions.2 hflawless.single live hlive, ?_, ?_⟩
    · rw [List.eq_nil_iff_forall_not_mem]
      intro f hf
      exact hflawless.sound live hlive f hf ((empty options).category_of_mem_extract hf)
    · intro r hr
      exact (hflawless.matched r.id).2 (List.mem_map_of_mem (List.mem_flatMap.2 ⟨live, hlive, hr⟩))
    · intro d hd
      exact (hflawless.matched d.id).1 (List.mem_map_of_mem (List.mem_flatMap.2 ⟨live, hlive, hd⟩))

end Findings

end Traceability.Index
