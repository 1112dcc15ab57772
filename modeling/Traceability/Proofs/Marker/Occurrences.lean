import Mathlib.Data.List.Sort
import Traceability.Marker
import Traceability.Proofs.Document.Spans
set_option autoImplicit false

/-!
# Occurrences of a marker

The search for a marker finds its leftmost occurrences that do not overlap.  These are the only occurrences that stand
apart from each other and cover the start of every occurrence there is, so nothing else has to be said about the search.
-/

namespace Traceability.Marker

open Text Document

/-- The leftmost occurrences of a marker, in the rest of a line that begins at `place`: they do not overlap, and every
occurrence that is none of them starts inside of one. -/
structure AreLeftmost (marker : List Char) (place : Nat) (rest : List Char) (places : List Nat) : Prop where
  stands : ∀ p ∈ places, Stands place rest p marker
  apart : places.Pairwise fun p q => p + marker.length ≤ q
  covered : ∀ q, Stands place rest q marker → ∃ p ∈ places, p ≤ q ∧ q < p + marker.length

/-! ## There are no others -/

namespace AreLeftmost

variable {marker : List Char} {place : Nat} {rest : List Char} {ps qs : List Nat}

theorem add_length_le (h : AreLeftmost marker place rest ps) {p q : Nat} (hp : p ∈ ps) (hq : q ∈ ps) (hlt : q < p) :
    q + marker.length ≤ p := by
  obtain ⟨i, hi, rfl⟩ := List.getElem_of_mem hp
  obtain ⟨j, hj, rfl⟩ := List.getElem_of_mem hq
  have hapart := List.pairwise_iff_getElem.1 h.apart
  rcases Nat.lt_trichotomy i j with hij | rfl | hji
  · have hwrong := hapart i j hi hj hij
    omega
  · exact absurd hlt (Nat.lt_irrefl _)
  · exact hapart j i hj hi hji

/-- An occurrence of one row is in the other one, if all earlier ones of the other row are in the first one. -/
theorem mem_of_mem (h : AreLeftmost marker place rest ps) (h' : AreLeftmost marker place rest qs) {p : Nat}
    (hearlier : ∀ q < p, q ∈ qs → q ∈ ps) (hp : p ∈ ps) : p ∈ qs := by
  obtain ⟨q, hq, hle, hlt⟩ := h'.covered p (h.stands p hp)
  rcases Nat.lt_or_eq_of_le hle with hbefore | rfl
  -- An earlier occurrence that covers `p` would be in the first row as well, and `p` would overlap it there.
  · have hapart := h.add_length_le hp (hearlier q hbefore hq) hbefore
    omega
  · exact hq

theorem mem_iff (h : AreLeftmost marker place rest ps) (h' : AreLeftmost marker place rest qs) (p : Nat) :
    p ∈ ps ↔ p ∈ qs := by
  induction p using Nat.strong_induction_on with
  | _ p ih =>
    exact ⟨h.mem_of_mem h' fun q hq => (ih q hq).2, h'.mem_of_mem h fun q hq => (ih q hq).1⟩

theorem pairwise_lt (hmarker : marker ≠ []) (h : AreLeftmost marker place rest ps) : ps.Pairwise (· < ·) := by
  have hpos := List.length_pos_iff.2 hmarker
  refine h.apart.imp ?_
  intro p q hle
  omega

theorem eq (hmarker : marker ≠ []) (h : AreLeftmost marker place rest ps) (h' : AreLeftmost marker place rest qs) :
    ps = qs :=
  (h.pairwise_lt hmarker).eq_of_mem_iff (h'.pairwise_lt hmarker) (h.mem_iff h')

end AreLeftmost

/-! ## The search -/

theorem stands_cons_cases {place q : Nat} {c : Char} {rest part : List Char} (h : Stands place (c :: rest) q part) :
    q = place ∧ part <+: c :: rest ∨ Stands (place + 1) rest q part := by
  obtain ⟨before, after, htext, rfl⟩ := h
  cases before with
  | nil => exact .inl ⟨rfl, after, htext.symm⟩
  | cons d before =>
    refine .inr ⟨before, after, (List.cons.inj htext).2, ?_⟩
    rw [List.length_cons]
    omega

theorem stands_of_append {place q : Nat} {front text part : List Char} (h : Stands place (front ++ text) q part)
    (hle : place + front.length ≤ q) : Stands (place + front.length) text q part := by
  obtain ⟨before, after, htext, rfl⟩ := h
  refine ⟨before.drop front.length, after, ?_, ?_⟩
  · have hdrop := congrArg (List.drop front.length) htext
    rw [List.drop_left, List.append_assoc, List.drop_append_of_le_length (by omega)] at hdrop
    rw [hdrop, List.append_assoc]
  · rw [List.length_drop]
    omega

/-- Nothing is found before the first occurrence. -/
theorem le_of_breakOn_eq_some {mark rest before after : List Char} (h : breakOn mark rest = some (before, after))
    {place q : Nat} (hq : Stands place rest q mark) : place + before.length ≤ q := by
  induction rest generalizing place before with
  | nil =>
    unfold breakOn at h
    split at h
    · obtain ⟨rfl, rfl⟩ := Prod.mk.inj (Option.some.inj h)
      exact hq.place_le
    · cases h
  | cons c rest ih =>
    unfold breakOn at h
    split at h
    · obtain ⟨rfl, rfl⟩ := Prod.mk.inj (Option.some.inj h)
      exact hq.place_le
    · next hprefix =>
      obtain ⟨⟨before', after'⟩, hrest, heq⟩ := Option.map_eq_some_iff.1 h
      obtain ⟨rfl, rfl⟩ := Prod.mk.inj heq
      rcases stands_cons_cases hq with ⟨_, hq⟩ | hq
      · exact absurd (List.isPrefixOf_iff_prefix.2 hq) hprefix
      · have hle := ih hrest hq
        rw [List.length_cons]
        omega

theorem not_stands_of_breakOn_eq_none {mark rest : List Char} (h : breakOn mark rest = none) (place q : Nat) :
    ¬ Stands place rest q mark := by
  intro hq
  induction rest generalizing place with
  | nil =>
    unfold breakOn at h
    split at h
    · cases h
    · next hmark =>
      obtain ⟨before, after, htext, _⟩ := hq
      rw [List.nil_eq_append_iff, List.append_eq_nil_iff] at htext
      exact hmark (List.isEmpty_iff.2 htext.1.2)
  | cons c rest ih =>
    unfold breakOn at h
    split at h
    · cases h
    · next hprefix =>
      rcases stands_cons_cases hq with ⟨_, hq⟩ | hq
      · exact hprefix (List.isPrefixOf_iff_prefix.2 hq)
      · exact ih (Option.map_eq_none_iff.1 h) (place + 1) hq

theorem areLeftmost_occurrences {marker : List Char} (hmarker : marker ≠ []) (place : Nat) (rest : List Char) :
    AreLeftmost marker place rest (occurrences marker place rest) := by
  fun_induction occurrences marker place rest with
  | case1 place rest hnil => exact absurd hnil hmarker
  | case2 place rest _ hnone =>
    exact ⟨fun p hp => absurd hp List.not_mem_nil, List.Pairwise.nil,
      fun q hq => absurd hq (not_stands_of_breakOn_eq_none hnone place q)⟩
  | case3 place rest _ before after hbreak _ start ih =>
    have hrest := breakOn_eq_append hbreak
    have hfront : start + marker.length = place + (before ++ marker).length := by
      rw [List.length_append, ← Nat.add_assoc]
    constructor
    · intro p hp
      rcases List.mem_cons.1 hp with rfl | hp
      · exact ⟨before, after, hrest, rfl⟩
      · have hlater := ih.stands p hp
        rw [hfront] at hlater
        rw [hrest]
        exact hlater.append_left (before ++ marker)
    · exact List.pairwise_cons.2 ⟨fun p hp => (ih.stands p hp).place_le, ih.apart⟩
    · intro q hq
      have hfirst := le_of_breakOn_eq_some hbreak hq
      -- An occurrence that does not start inside of the first one stands in what is still to be searched.
      rcases Nat.lt_or_ge q (start + marker.length) with hlt | hge
      · exact ⟨start, List.mem_cons_self, hfirst, hlt⟩
      · rw [hfront] at hge
        rw [hrest] at hq
        have hlater := stands_of_append hq hge
        rw [← hfront] at hlater
        obtain ⟨p, hp, hcovered⟩ := ih.covered q hlater
        exact ⟨p, List.mem_cons_of_mem start hp, hcovered⟩

/-- The search finds the leftmost occurrences of a marker, and nothing else. -/
theorem occurrences_eq_iff {marker : List Char} (hmarker : marker ≠ []) (place : Nat) (rest : List Char)
    (places : List Nat) : occurrences marker place rest = places ↔ AreLeftmost marker place rest places := by
  constructor
  · rintro rfl
    exact areLeftmost_occurrences hmarker place rest
  · exact (areLeftmost_occurrences hmarker place rest).eq hmarker

end Traceability.Marker
