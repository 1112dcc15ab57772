import Traceability.Proofs.Session.Publishing
set_option autoImplicit false

/-!
# The view of the editor stays current

Each event of a session leaves the editor with the current findings of every document, though the session sends
only those of the document that changed and of the documents linked to it.  The step rests on the linked files
being enough; the beginning, the loss of a document and a change of the policy restore the view on their own.
-/

namespace Traceability.Session

/-! ## Findings beside a document -/

theorem mem_findingsBeside_iff (x : Index) (uri : String) (linked : List String) (item : String × List Finding) :
    item ∈ findingsBeside x uri linked ↔
      item.1 ∈ linked ∧ item.1 ≠ uri ∧ x.revalidate item.1 = some item.2 := by
  unfold findingsBeside
  rw [List.mem_filterMap]
  constructor
  · rintro ⟨other, hother, hitem⟩
    obtain ⟨findings, hfindings, rfl⟩ := Option.map_eq_some_iff.1 hitem
    obtain ⟨hlinked, hne⟩ := List.mem_filter.1 hother
    exact ⟨hlinked, by simpa using hne, hfindings⟩
  · rintro ⟨hlinked, hne, hfindings⟩
    refine ⟨item.1, List.mem_filter.2 ⟨hlinked, by simpa using hne⟩, ?_⟩
    rw [hfindings]
    rfl

/-- If a change leaves alone the findings of all documents that are not linked, then it leaves alone those of every
document that is not sent for. -/
theorem revalidate_eq_of_not_sent {x y : Index} {uri other : String} {linked : List String} (hne : other ≠ uri)
    (hfile : y.file? other = x.file? other)
    (hunlinked : other ∉ linked → y.revalidate other = x.revalidate other)
    (hout : other ∉ (findingsBeside y uri linked).map Prod.fst) : y.revalidate other = x.revalidate other := by
  cases hfindings : y.revalidate other with
  | none =>
    rw [revalidate_eq_none_iff, hfile] at hfindings
    exact ((revalidate_eq_none_iff x other).2 hfindings).symm
  | some findings =>
    rw [← hfindings]
    apply hunlinked
    intro hlinked
    apply hout
    rw [List.mem_map]
    exact ⟨(other, findings), (mem_findingsBeside_iff y uri linked _).2 ⟨hlinked, hne, hfindings⟩, rfl⟩

/-! ## Single documents -/

section Watched

variable {watched : String → Prop} {s : Session} {log : List Message} {uri : String}

theorem IsCurrent.refresh (h : IsCurrent watched s log) (huri : Serves watched uri) (text : String) :
    IsCurrent watched (s.refresh uri text).1 (log ++ (s.refresh uri text).2) := by
  have hself := Index.revalidate_load_self h.ready uri text
  have hindex : (s.index.analyze uri text).1 = s.index.load uri text := s.index.analyze_fst uri text
  have hsame : ∀ other, other ≠ uri →
      other ∉ (findingsBeside (s.index.load uri text) uri
        (s.index.linked uri ∪ (s.index.load uri text).linked uri).toList).map Prod.fst →
      (s.index.load uri text).revalidate other = s.index.revalidate other := by
    intro other hne hout
    refine revalidate_eq_of_not_sent hne ?_ ?_ hout
    · rw [Index.file?_load, if_neg (Ne.symm hne)]
    · rw [Std.ExtTreeSet.mem_toList, Std.ExtTreeSet.mem_union_iff, not_or]
      rintro ⟨hbefore, hafter⟩
      exact h.servable.coherent.revalidate_load_eq hne hbefore hafter
  unfold Session.refresh
  simp only [hindex]
  apply IsCurrent.of_publishAll
  · exact h.started
  · exact (s.index.phase_load uri text).trans h.ready
  · exact h.servable.load huri text
  · intro item hitem
    rw [List.mem_cons] at hitem
    rcases hitem with rfl | hitem
    · exact hself
    · exact ((mem_findingsBeside_iff _ _ _ _).1 hitem).2.2
  · intro other hout
    rw [List.map_cons, List.mem_cons, not_or] at hout
    simp only [hsame other hout.1 hout.2]
    exact h.published other
  · intro other hother hout
    rw [List.map_cons, List.mem_cons, not_or] at hout
    simp only [hsame other hout.1 hout.2]
    exact h.shown other hother

/-- What is sent first when a document is dropped clears its own findings. -/
theorem shown?_append_cleared (huri : Serves watched uri) {u : String} (hu : watched u) (log : List Message) :
    shown? u (log ++ (Locator.ofText? uri).toList.map fun locator => Message.publish locator.uri []) =
      if uri = u then some [] else shown? u log := by
  obtain ⟨address, haddress⟩ := Option.isSome_iff_exists.1 huri.readable
  have hiff : address = u ↔ uri = u := by
    rw [← huri.apart u hu, haddress, Option.some_inj]
  obtain ⟨locator, hread, rfl⟩ := Option.map_eq_some_iff.1 haddress
  rw [hread]
  simp only [Option.toList_some, List.map_cons, List.map_nil]
  rw [shown?_concat_publish]
  exact if_congr hiff rfl rfl

theorem IsCurrent.forget (h : IsCurrent watched s log) (huri : Serves watched uri) :
    IsCurrent watched (s.forget uri).1 (log ++ (s.forget uri).2) := by
  have hgone : (s.index.remove uri).revalidate uri = none := by
    rw [revalidate_eq_none_iff, Index.file?_remove, if_pos rfl]
  have hsame : ∀ other, other ≠ uri →
      other ∉ (findingsBeside (s.index.remove uri) uri (s.index.linked uri).toList).map Prod.fst →
      (s.index.remove uri).revalidate other = s.index.revalidate other := by
    intro other hne hout
    refine revalidate_eq_of_not_sent hne ?_ ?_ hout
    · rw [Index.file?_remove, if_neg (Ne.symm hne)]
    · rw [Std.ExtTreeSet.mem_toList]
      exact h.servable.coherent.revalidate_remove_eq hne
  unfold Session.forget
  simp only
  rw [← List.append_assoc]
  apply IsCurrent.of_publishAll
  · exact h.started
  · exact (s.index.phase_remove uri).trans h.ready
  · exact h.servable.remove uri
  · intro item hitem
    exact ((mem_findingsBeside_iff _ _ _ _).1 hitem).2.2
  · intro other hout
    simp only
    by_cases hne : other = uri
    · subst hne
      rw [hgone, Std.ExtTreeMap.getElem?_erase_self]
    · rw [hsame other hne hout, ← h.published other]
      simp [Std.ExtTreeMap.getElem?_erase, Ne.symm hne]
  · intro other hother hout
    simp only
    have hcleared := shown?_append_cleared huri hother log
    by_cases hne : other = uri
    · subst hne
      rw [if_pos rfl] at hcleared
      rw [hgone]
      exact .inr hcleared
    · rw [if_neg (Ne.symm hne)] at hcleared
      rw [hsame other hne hout]
      exact (h.shown other hother).congr hcleared

/-! ## Files on the disk -/

/-- Taking in a document from the disk does nothing, takes in its text, or drops it. -/
theorem reload_cases (s : Session) (d : Disk) (locator : Locator) :
    s.reload d locator = (s, []) ∨
      (∃ text, s.reload d locator = s.refresh locator.uri text) ∨
      s.reload d locator = s.forget locator.uri := by
  unfold Session.reload
  split
  · exact .inl rfl
  · split
    · exact .inr (.inr rfl)
    · split
      · next text _ =>
        split
        · exact .inr (.inl ⟨text, rfl⟩)
        · exact .inr (.inr rfl)
      · exact .inr (.inr rfl)

theorem IsCurrent.reload (h : IsCurrent watched s log) (d : Disk) {locator : Locator}
    (huri : Serves watched locator.uri) :
    IsCurrent watched (s.reload d locator).1 (log ++ (s.reload d locator).2) := by
  rcases reload_cases s d locator with hnothing | ⟨text, htext⟩ | hgone
  · rw [hnothing, List.append_nil]
    exact h
  · rw [htext]
    exact h.refresh huri text
  · rw [hgone]
    exact h.forget huri

theorem IsCurrent.followChanges (h : IsCurrent watched s log) (d : Disk) {changes : List FileChange}
    (huris : ∀ change ∈ changes, Serves watched change.locator.uri) :
    IsCurrent watched (s.followChanges d changes).1 (log ++ (s.followChanges d changes).2) := by
  induction changes generalizing s log with
  | nil =>
    simp only [Session.followChanges, List.append_nil]
    exact h
  | cons change rest ih =>
    obtain ⟨huri, hrest⟩ := List.forall_mem_cons.1 huris
    unfold Session.followChanges
    simp only [← List.append_assoc]
    apply ih _ hrest
    split
    · rw [List.append_nil]
      exact h
    · split
      · exact h.forget huri
      · exact h.reload d huri

/-! ## The policy and the buffers -/

/-- A change of the policy sends all that is on record. -/
theorem IsCurrent.setDemotion (h : IsCurrent watched s log) (demote : Bool) (locator : Option Locator) :
    IsCurrent watched (s.setDemotion demote locator).1 (log ++ (s.setDemotion demote locator).2) := by
  have hnone : ∀ uri, uri ∉ s.published.toList.map Prod.fst → s.index.revalidate uri = none := by
    intro uri hout
    rw [← h.published uri]
    cases hget : s.published[uri]? with
    | none => rfl
    | some findings =>
      have hmem : (uri, findings) ∈ s.published.toList := Std.ExtTreeMap.mem_toList_iff_getElem?_eq_some.2 hget
      exact absurd (List.mem_map.2 ⟨_, hmem, rfl⟩) hout
  unfold Session.setDemotion
  apply IsCurrent.of_publishAll
  · exact h.started
  · exact h.ready
  · exact h.servable
  · intro item hitem
    rw [← h.published item.1]
    exact Std.ExtTreeMap.mem_toList_iff_getElem?_eq_some.1 hitem
  · intro uri _
    exact h.published uri
  · intro uri huri hout
    -- What is not sent again is not in the index, and the policy does not matter for it.
    have hshown := h.shown uri huri
    rw [hnone uri hout] at hshown
    simp only [hnone uri hout]
    exact hshown

/-- The buffers have no part in what is shown. -/
theorem IsCurrent.withDocuments (h : IsCurrent watched s log) (documents : Std.ExtTreeMap String String) :
    IsCurrent watched { s with documents } log :=
  ⟨h.started, h.ready, h.servable, h.published, h.shown⟩

end Watched

end Traceability.Session
