import Traceability.Proofs.Document.Targets
import Traceability.Proofs.Extraction.Lines
import Traceability.Proofs.Word.References
set_option autoImplicit false

/-!
# Claims without an id

Two double asterisks in a row are a bold span with nothing in it.  As one of several targets such a span is a fault and
claims nothing.  As the only target of its link it is taken for a phrase, and the link claims a requirement without an
id, which nothing can define.  No other claim is without an id.
-/

namespace Traceability

open Text

namespace Document

/-! ## Empty targets -/

/-- Only a single target that says nothing gives an empty id. -/
theorem nil_mem_ids_readTargets_iff (start : Cursor) (ls : List NumberedLine) (spans : List LocatedSpan) :
    [] ∈ (readTargets start ls spans).value.ids ↔ ∃ s, spans = [s] ∧ ∀ c ∈ s.span.text, isBlank c = true := by
  cases spans with
  | nil => simp [readTargets, Targets.ids]
  | cons first later =>
    cases later with
    | nil =>
      have hsingle : (∃ s, [first] = [s] ∧ ∀ c ∈ s.span.text, isBlank c = true) ↔
          ∀ c ∈ first.span.text, isBlank c = true := by
        simp
      rw [hsingle, ids_readTargets_singleton, List.mem_singleton, eq_comm]
      split
      · next hid =>
        obtain ⟨c, rest, htext⟩ := List.exists_cons_of_ne_nil (ne_nil_of_isIdentifier hid)
        have hc : c ∈ first.span.text := htext ▸ List.mem_cons_self
        have hinked := isBlank_eq_false_of_isIdentifier hid c hc
        refine iff_of_false (ne_nil_of_isIdentifier hid) fun hblank => ?_
        cases (hblank c hc).symm.trans hinked
      · exact collapse_eq_nil_iff _
    | cons second others =>
      refine iff_of_false (fun h => ?_) ?_
      · obtain ⟨phrase, hphrase, htext⟩ := List.mem_map.1 h
        obtain ⟨s, hs, rfl⟩ := List.mem_map.1 hphrase
        have hid : isIdentifier s.span.text = true := (List.mem_filter.1 hs).2
        exact ne_nil_of_isIdentifier hid htext
      · rintro ⟨s, hspans, _⟩
        cases (List.cons.inj hspans).2

namespace ItemLines

variable {item : ItemLines}

/-- What stands between the markers of a target has a character that is no blank, or it is empty. -/
theorem text_eq_nil_of_mem_boldSpans {s : LocatedSpan} (hs : s ∈ item.boldSpans)
    (hblank : ∀ c ∈ s.span.text, isBlank c = true) : s.span.text = [] := by
  obtain ⟨c, _, hs⟩ := List.mem_flatMap.1 (List.mem_filter.1 hs).1
  obtain ⟨span, hspan, rfl⟩ := List.mem_map.1 hs
  by_contra hne
  have hinked := startsInked_of_mem_spansFrom hspan hne
  obtain ⟨d, rest, htext⟩ := List.exists_cons_of_ne_nil hne
  change span.text = d :: rest at htext
  rw [htext, startsInked, hblank d (htext ▸ List.mem_cons_self)] at hinked
  cases hinked

/-- Several targets that say nothing are at fault, and so is a link without any. -/
theorem faults_of_empty_targets {text : String} (hitem : item ∈ ofLines (numbered (Text.lines text)))
    (hlink : item.StartsWithLinkWord) (hempty : ∀ b ∈ item.boldSpans, b.span.text = [])
    (hcount : item.boldSpans.length ≠ 1) :
    (readTargets item.start item.lines item.boldSpans).value.ids = [] ∧
      parseFaultsOn (Document.ofText text) item.lines ≠ [] := by
  rw [parseFaultsOn_lines hitem hlink]
  by_cases hnone : item.boldSpans = []
  · rw [hnone]
    exact ⟨rfl, List.cons_ne_nil _ _⟩
  · have hseveral : 2 ≤ item.boldSpans.length := by
      have hpos := List.length_pos_iff.2 hnone
      omega
    obtain ⟨hids, hfaults⟩ := readTargets_of_two_le item.start hseveral
      (separatedByComma_boldSpans_iff (isConsecutive_of_mem_ofLines hitem))
    have htext : ∀ text ∈ item.boldSpans.map fun b => b.span.text, isIdentifier text = false := by
      intro text htext
      obtain ⟨b, hb, rfl⟩ := List.mem_map.1 htext
      rw [hempty b hb, isIdentifier_nil]
    rw [hids, hfaults]
    refine ⟨List.filter_eq_nil_iff.2 fun text h => by simp [htext text h], fun h => ?_⟩
    obtain ⟨b, hb⟩ := List.exists_mem_of_ne_nil _ hnone
    have hid := (flatMap_faultsBehind_eq_nil_iff.1 h).1 b hb
    rw [htext _ (List.mem_map_of_mem hb)] at hid
    cases hid

end ItemLines

end Document

namespace Extraction

open Document

/-! ## Claims of items -/

/-- Only links claim anything. -/
theorem startsWithLinkWord_of_mem_referencesOfItem {uri : String} {item : ItemLines} {r : Reference}
    (h : r ∈ referencesOfItem uri (readItem item).value) : item.StartsWithLinkWord := by
  rcases readItem_cases item with hread | ⟨hlink, _⟩
  · rw [hread] at h
    cases h
  · exact ItemLines.startsWithLinkWord_of_isLink hlink

section EmptyTarget

variable (uri : String) {text : String} (remarkUri : Option String) {item : ItemLines}
  (hitem : item ∈ ItemLines.ofLines (numbered (lines text))) (hlink : item.StartsWithLinkWord)

include hitem hlink

/-- A single target that is empty is claimed, and nothing is found wrong with it. -/
theorem claims_of_empty_target {b : LocatedSpan} (hbold : item.boldSpans = [b]) (hempty : b.span.text = []) :
    (ofText uri text remarkUri).references.filter (fun r => r.range.start.line = item.first.number) =
        [⟨"", uri, item.range⟩] ∧
      parseFaultsOn (Document.ofText text) item.lines = [] := by
  rw [filter_references_of_startsWithLinkWord uri remarkUri hitem hlink, parseFaultsOn_lines hitem hlink, hbold,
    ids_readTargets_singleton, hempty]
  exact ⟨rfl, (readTargets_singleton _ _ b).2⟩

end EmptyTarget

/-- A claim of a document is without an id just if it is that of a link with a single target, which is empty. -/
theorem id_eq_empty_iff_of_mem_references (uri : String) {text : String} (remarkUri : Option String) {r : Reference}
    (hr : r ∈ (ofText uri text remarkUri).references) :
    r.id = "" ↔ ∃ item ∈ ItemLines.ofLines (numbered (lines text)), item.StartsWithLinkWord ∧ r.range = item.range ∧
      item.boldSpans.map (fun b => b.span.text) = [[]] := by
  constructor
  · intro hempty
    rw [references_ofText] at hr
    obtain ⟨item, hitem, hclaim⟩ := List.mem_flatMap.1 hr
    have hlink := startsWithLinkWord_of_mem_referencesOfItem hclaim
    rw [referencesOfItem_readItem uri hlink] at hclaim
    obtain ⟨id, hid, rfl⟩ := List.mem_map.1 hclaim
    obtain rfl : id = [] := String.ofList_eq_empty_iff.1 hempty
    obtain ⟨b, hbold, hblank⟩ := (nil_mem_ids_readTargets_iff _ _ _).1 hid
    have hnil := ItemLines.text_eq_nil_of_mem_boldSpans (hbold ▸ List.mem_singleton_self b) hblank
    exact ⟨item, hitem, hlink, rfl, by rw [hbold, List.map_singleton, hnil]⟩
  · rintro ⟨item, hitem, hlink, hrange, hbold⟩
    obtain ⟨b, hb, hnil⟩ := List.map_eq_singleton_iff.1 hbold
    have hline : r.range.start.line = item.first.number := by
      rw [hrange]
      rfl
    have hmem : r ∈ (ofText uri text remarkUri).references.filter fun r => r.range.start.line = item.first.number :=
      List.mem_filter.2 ⟨hr, decide_eq_true hline⟩
    rw [(claims_of_empty_target uri remarkUri hitem hlink hb hnil).1] at hmem
    rw [List.mem_singleton.1 hmem]

/-- Every claim of a plain file has an id.  A claim of a document has none just if it is that of a link with a single
target, which is empty; with such a link no fault is found.  Any other link whose targets are all empty claims nothing,
and a fault is found with it: it has no target, or several of them. -/
theorem claims_without_id (uri text marker : String) (remarkUri : Option String) :
    let references := (ofText uri text remarkUri).references
    let items := ItemLines.ofLines (numbered (lines text))
    (∀ r ∈ (Marker.scan uri text marker).references, r.id ≠ "") ∧
      (∀ r ∈ references, r.id = "" ↔
        ∃ item ∈ items, item.StartsWithLinkWord ∧ r.range = item.range ∧
          item.boldSpans.map (fun b => b.span.text) = [[]]) ∧
      ∀ item ∈ items, item.StartsWithLinkWord → (∀ b ∈ item.boldSpans, b.span.text = []) →
        let claims := references.filter fun r => r.range.start.line = item.first.number
        let faults := parseFaultsOn (Document.ofText text) item.lines
        (item.boldSpans.length = 1 → claims = [⟨"", uri, item.range⟩] ∧ faults = []) ∧
          (item.boldSpans.length ≠ 1 → claims = [] ∧ faults ≠ []) := by
  intro references items
  refine ⟨fun r hr hempty => ?_, fun r hr => id_eq_empty_iff_of_mem_references uri remarkUri hr,
    fun item hitem hlink hempty => ⟨fun hone => ?_, fun hcount => ?_⟩⟩
  · obtain ⟨_, _, item, hwritten, rfl⟩ := Marker.exists_isWritten_of_mem_scan hr
    have hid : item.id = [] := String.ofList_eq_empty_iff.1 hempty
    exact ne_nil_of_isIdentifier hwritten.isIdentifier_id hid
  · obtain ⟨b, hb⟩ := List.length_eq_one_iff.1 hone
    exact claims_of_empty_target uri remarkUri hitem hlink hb (hempty b (hb ▸ List.mem_singleton_self b))
  · obtain ⟨hids, hfaults⟩ := ItemLines.faults_of_empty_targets hitem hlink hempty hcount
    refine ⟨?_, hfaults⟩
    rw [filter_references_of_startsWithLinkWord uri remarkUri hitem hlink, hids, List.map_nil]

theorem claims_without_id_of_empty_targets :
    let text := "# *x*\n* Implements ****\n* Implements ****,\n  ****\n"
    let single : ItemLines := ⟨⟨1, "* Implements ****".toList⟩, []⟩
    let double : ItemLines := ⟨⟨2, "* Implements ****,".toList⟩, [⟨3, "  ****".toList⟩]⟩
    let references := (ofText "a.shalldn" text none).references
    [single, double] = ItemLines.ofLines (numbered (lines text)) ∧
      (∀ item ∈ [single, double], item.StartsWithLinkWord ∧ ∀ b ∈ item.boldSpans, b.span.text = []) ∧
      references.filter (fun r => r.range.start.line = 1) = [⟨"", "a.shalldn", Range.onLine 1 2 17⟩] ∧
      references.filter (fun r => r.range.start.line = 2) = [] ∧
      parseFaultsOn (Document.ofText text) double.lines ≠ [] := by
  intro text single double references
  have hitems : [single, double] = ItemLines.ofLines (numbered (lines text)) := by decide +kernel
  have hempty : ∀ item ∈ [single, double], ∀ b ∈ item.boldSpans, b.span.text = [] := by decide +kernel
  have hword : ∀ item ∈ [single, double], isLink (item.first.text.drop item.start.place) = true := by decide +kernel
  have hlink : ∀ item ∈ [single, double], item.StartsWithLinkWord := fun item hitem =>
    ItemLines.startsWithLinkWord_of_isLink (hword item hitem)
  have hsingle : single ∈ [single, double] := List.mem_cons_self
  have hdouble : double ∈ [single, double] := List.mem_cons_of_mem _ (List.mem_singleton_self _)
  obtain ⟨_, _, hclaims⟩ := claims_without_id "a.shalldn" text "" none
  rw [← hitems] at hclaims
  obtain ⟨hone, _⟩ := hclaims single hsingle (hlink single hsingle) (hempty single hsingle)
  obtain ⟨_, hseveral⟩ := hclaims double hdouble (hlink double hdouble) (hempty double hdouble)
  have hrange : single.range = Range.onLine 1 2 17 := by decide +kernel
  obtain ⟨hnone, hfaults⟩ := hseveral (by decide +kernel)
  exact ⟨hitems, fun item hitem => ⟨hlink item hitem, hempty item hitem⟩, hrange ▸ (hone (by decide +kernel)).1, hnone,
    hfaults⟩

/-- The only target of a link is empty: it is claimed, and nothing is found wrong with the document. -/
theorem claim_without_id :
    let extraction := ofText "a.shalldn" "# *x*\n* Implements ****\n" none
    (∃ r ∈ extraction.references, r.id = "") ∧ extraction.findings = [] := by
  decide +kernel

end Extraction

end Traceability
