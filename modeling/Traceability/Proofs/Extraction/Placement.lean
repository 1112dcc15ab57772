import Mathlib.Data.List.Nodup
import Traceability.Proofs.Document.Items
import Traceability.Proofs.Extraction.Categories
import Traceability.Proofs.Extraction.Walk
set_option autoImplicit false

/-!
# Placement of links

A link belongs to something if its list directly follows a title, a heading or a requirement and no plain item stands
before it in the list.  The walk finds the links that belong to nothing, each of them once, and no others.  The claims
of a link count wherever it stands.
-/

namespace Traceability

open Text Document

/-! ## Findings about links -/

/-- Whether the finding is about a link that belongs to nothing. -/
def Finding.isLinkPlacement (f : Finding) : Bool := f = .linkPlacement f.range

namespace Finding

theorem isLinkPlacement_linkPlacement (range : Range) : (linkPlacement range).isLinkPlacement = true :=
  decide_eq_true rfl

theorem isLinkPlacement_of_message_ne {f : Finding} (h : f.message ≠ (linkPlacement f.range).message) :
    f.isLinkPlacement = false :=
  decide_eq_false fun heq => h (congrArg message heq)

theorem isLinkPlacement_of_category_ne {f : Finding} (h : f.category ≠ .structuralPlacement) :
    f.isLinkPlacement = false :=
  decide_eq_false fun heq => h (congrArg category heq)

end Finding

namespace Extraction

theorem mem_misplacements_iff {sites : List LinkSite} {f : Finding} :
    f ∈ misplacements sites ↔ ∃ s ∈ sites, s.isPlaced = false ∧ f = .linkPlacement s.range := by
  unfold misplacements
  constructor
  · intro hf
    obtain ⟨s, hs, rfl⟩ := List.mem_map.1 hf
    obtain ⟨hmem, hplaced⟩ := List.mem_filter.1 hs
    exact ⟨s, hmem, by simpa using hplaced, rfl⟩
  · rintro ⟨s, hs, hplaced, rfl⟩
    refine List.mem_map.2 ⟨s, List.mem_filter.2 ⟨hs, ?_⟩, rfl⟩
    rw [hplaced]
    rfl

theorem misplacements_flatMap {α : Type} (f : α → List LinkSite) (xs : List α) :
    misplacements (xs.flatMap f) = xs.flatMap fun x => misplacements (f x) := by
  unfold misplacements
  rw [List.filter_flatMap, List.map_flatMap]

theorem filter_misplacements (sites : List LinkSite) :
    (misplacements sites).filter Finding.isLinkPlacement = misplacements sites := by
  rw [List.filter_eq_self]
  intro f hf
  obtain ⟨s, _, _, rfl⟩ := mem_misplacements_iff.1 hf
  exact Finding.isLinkPlacement_linkPlacement s.range

/-- Only lists have misplaced links. -/
theorem filter_findingsAt (before : List Block) (block : Block) :
    (findingsAt before block).filter Finding.isLinkPlacement = misplacements (LinkSite.ofBlock before block) := by
  cases block with
  | title range phrases => rfl
  | heading level range phrases =>
    have hmessage : (Finding.multipleInformalIdentifiers range).isLinkPlacement = false :=
      Finding.isLinkPlacement_of_message_ne (by simp [Finding.multipleInformalIdentifiers, Finding.linkPlacement])
    simp only [findingsAt]
    split
    · exact List.filter_cons_of_neg (by rw [hmessage]; exact Bool.false_ne_true)
    · rfl
  | sentence range => rfl
  | requirement range id clause =>
    refine List.filter_eq_nil_iff.2 fun f hf => ?_
    have hcategory : f.category ≠ .structuralPlacement := by
      rw [category_of_mem_mismatch hf]
      exact Category.noConfusion
    rw [Finding.isLinkPlacement_of_category_ne hcategory]
    exact Bool.false_ne_true
  | list range items => exact filter_misplacements _

/-- The findings about links are those for its misplaced links. -/
theorem filter_findings_ofDocument (uri : String) (document : Document) (remarkUri : Option String) :
    (ofDocument uri document remarkUri).findings.filter Finding.isLinkPlacement = misplacements document.links := by
  have hfaults : (document.faults.map (·.toFinding remarkUri)).filter Finding.isLinkPlacement = [] := by
    refine List.filter_eq_nil_iff.2 fun f hf => ?_
    obtain ⟨fault, _, rfl⟩ := List.mem_map.1 hf
    rw [Finding.isLinkPlacement_of_category_ne (Category.noConfusion : Category.syntaxError ≠ .structuralPlacement)]
    exact Bool.false_ne_true
  have hclosing : (closingFindings document.blocks).filter Finding.isLinkPlacement = [] := by
    unfold closingFindings
    split
    · rfl
    · rfl
  have hblocks : ((withEarlier document.blocks).flatMap fun e => findingsAt e.1 e.2).filter Finding.isLinkPlacement =
      misplacements document.links := by
    unfold Document.links
    rw [List.filter_flatMap, misplacements_flatMap]
    exact List.flatMap_congr fun e _ => filter_findingsAt e.1 e.2
  rw [findings_ofDocument, List.filter_append, List.filter_append, hfaults, hclosing, hblocks, List.append_nil,
    List.nil_append]

/-! ## Claims of links -/

theorem flatMap_references_ofBlock (uri : String) (before : List Block) (block : Block) :
    (LinkSite.ofBlock before block).flatMap (LinkSite.references uri) = referencesOf uri block := by
  cases block with
  | list range items =>
    have hitem (e : List ListItem × ListItem) :
        (LinkSite.ofItem? before e.1 e.2).toList.flatMap (LinkSite.references uri) = referencesOfItem uri e.2 := by
      obtain ⟨earlier, item⟩ := e
      cases item with
      | text range => rfl
      | link range targets => exact List.flatMap_singleton _ _
    simp only [LinkSite.ofBlock, List.filterMap_eq_flatMap_toList, List.flatMap_assoc, hitem]
    exact flatMap_snd_withEarlier _ items
  | title range phrases => rfl
  | heading level range phrases => rfl
  | sentence range => rfl
  | requirement range id clause => rfl

/-- A document claims what its links claim. -/
theorem references_ofDocument (uri : String) (document : Document) (remarkUri : Option String) :
    (ofDocument uri document remarkUri).references = document.links.flatMap (LinkSite.references uri) := by
  have hreferences : (ofDocument uri document remarkUri).references = document.blocks.flatMap (referencesOf uri) := rfl
  unfold Document.links
  simp only [hreferences, List.flatMap_assoc, flatMap_references_ofBlock]
  exact (flatMap_snd_withEarlier _ _).symm

end Extraction

/-! ## All links of a document -/

/-- Each link item is a link of its document, with what stands before it. -/
theorem Document.mem_links_iff (document : Document) (s : LinkSite) :
    s ∈ document.links ↔ ∃ range after later,
      document.blocks = s.before ++ .list range (s.earlier ++ .link s.range s.targets :: later) :: after := by
  unfold links
  rw [List.mem_flatMap]
  constructor
  · rintro ⟨⟨before, block⟩, hblock, hs⟩
    obtain ⟨after, hblocks⟩ := mem_withEarlier_iff.1 hblock
    cases block with
    | list range items =>
      obtain ⟨⟨earlier, item⟩, hitem, hlink⟩ := List.mem_filterMap.1 hs
      obtain ⟨later, rfl⟩ := mem_withEarlier_iff.1 hitem
      cases item with
      | text range => cases hlink
      | link range targets =>
        obtain rfl := Option.some.inj hlink
        exact ⟨_, after, later, hblocks⟩
    | title range phrases => cases hs
    | heading level range phrases => cases hs
    | sentence range => cases hs
    | requirement range id clause => cases hs
  · rintro ⟨range, after, later, hblocks⟩
    exact ⟨_, mem_withEarlier_iff.2 ⟨after, hblocks⟩,
      List.mem_filterMap.2 ⟨_, mem_withEarlier_iff.2 ⟨later, rfl⟩, rfl⟩⟩

namespace LinkSite

/-- The item that a link is. -/
def item (s : LinkSite) : ListItem := .link s.range s.targets

theorem map_item_ofBlock (before : List Block) (block : Block) :
    (ofBlock before block).map item = block.items.filter fun item => !item.isPlain := by
  cases block with
  | list range items =>
    have hitem (e : List ListItem × ListItem) :
        (ofItem? before e.1 e.2).map item = Option.guard (fun item => !item.isPlain) e.2 := by
      obtain ⟨earlier, item⟩ := e
      cases item with
      | text range => rfl
      | link range targets => rfl
    calc
      ((withEarlier items).filterMap fun e => ofItem? before e.1 e.2).map item
      _ = (withEarlier items).filterMap fun e => Option.guard (fun item => !item.isPlain) e.2 := by
        simp only [List.map_filterMap, hitem]
      _ = ((withEarlier items).map Prod.snd).filterMap (Option.guard fun item => !item.isPlain) := by
        rw [List.filterMap_map]
        rfl
      _ = items.filter fun item => !item.isPlain := by rw [map_snd_withEarlier, List.filterMap_eq_filter]
  | title range phrases => rfl
  | heading level range phrases => rfl
  | sentence range => rfl
  | requirement range id clause => rfl

end LinkSite

/-- The links of a document are those of its items that are not plain. -/
theorem Document.map_item_links (document : Document) :
    document.links.map LinkSite.item = document.items.filter fun item => !item.isPlain := by
  unfold links items
  simp only [List.map_flatMap, List.filter_flatMap, LinkSite.map_item_ofBlock]
  exact flatMap_snd_withEarlier (fun block => block.items.filter fun item => !item.isPlain) document.blocks

/-- No two links of a text have the same range. -/
theorem Document.nodup_range_links (text : String) : ((ofText text).links.map LinkSite.range).Nodup := by
  have hranges : (ofText text).links.map LinkSite.range =
      ((ofText text).items.filter fun item => !item.isPlain).map ListItem.range := by
    rw [← map_item_links, List.map_map]
    rfl
  have hitems : ((ofText text).items.map ListItem.range).Nodup := by
    refine List.pairwise_map.2 ((pairwise_items text).imp_of_mem ?_)
    intro a b ha _ hlt heq
    have hline := start_le_stop_of_mem_items ha
    rw [← heq] at hlt
    omega
  rw [hranges]
  exact hitems.sublist (List.filter_sublist.map _)

namespace Extraction

/-- A link of a text is found misplaced once, or it belongs to something and is not. -/
theorem count_linkPlacement (uri : String) (remarkUri : Option String) {text : String} {s : LinkSite}
    (h : s ∈ (Document.ofText text).links) :
    (ofText uri text remarkUri).findings.count (.linkPlacement s.range) = if s.isPlaced then 0 else 1 := by
  have hranges := Document.nodup_range_links text
  have hfindings : (ofText uri text remarkUri).findings.count (.linkPlacement s.range) =
      (misplacements (Document.ofText text).links).count (.linkPlacement s.range) := by
    rw [← filter_findings_ofDocument uri _ remarkUri,
      List.count_filter (Finding.isLinkPlacement_linkPlacement s.range)]
    rfl
  have hnodup : (misplacements (Document.ofText text).links).Nodup := by
    have hmap : misplacements (Document.ofText text).links =
        (((Document.ofText text).links.filter fun s => !s.isPlaced).map LinkSite.range).map Finding.linkPlacement := by
      rw [List.map_map]
      rfl
    rw [hmap]
    exact (hranges.sublist (List.filter_sublist.map _)).map fun a b hab => congrArg Finding.range hab
  rw [hfindings]
  cases hplaced : s.isPlaced with
  | true =>
    refine List.count_eq_zero_of_not_mem fun hmem => ?_
    obtain ⟨t, ht, hmisplaced, heq⟩ := mem_misplacements_iff.1 hmem
    obtain rfl := List.inj_on_of_nodup_map hranges h ht (congrArg Finding.range heq)
    exact absurd (hplaced.symm.trans hmisplaced) (by decide)
  | false => exact List.count_eq_one_of_mem hnodup (mem_misplacements_iff.2 ⟨s, h, hplaced, rfl⟩)

/-- A link is found misplaced just if it belongs to nothing, and its claims count all the same.  Among the findings of a
document those about links are one for each misplaced link, in order; and since no two links of a text have the same
range, the range tells which of them is meant. -/
theorem misplaced_links_found_once (uri : String) (remarkUri : Option String) :
    (∀ document : Document,
      let extraction := ofDocument uri document remarkUri
      (∀ s, s ∈ document.links ↔ ∃ range after later,
          document.blocks = s.before ++ .list range (s.earlier ++ .link s.range s.targets :: later) :: after) ∧
        extraction.findings.filter Finding.isLinkPlacement =
          (document.links.filter fun s => !s.isPlaced).map (fun s => .linkPlacement s.range) ∧
        extraction.references = document.links.flatMap (LinkSite.references uri)) ∧
      ∀ text, ∀ s ∈ (Document.ofText text).links,
        (ofText uri text remarkUri).findings.count (.linkPlacement s.range) = if s.isPlaced then 0 else 1 := by
  refine ⟨fun document => ⟨document.mem_links_iff, ?_, ?_⟩, fun text s hs => ?_⟩
  · exact filter_findings_ofDocument uri document remarkUri
  · exact references_ofDocument uri document remarkUri
  · exact count_linkPlacement uri remarkUri hs

/-- The list directly follows the title, but a plain item stands before its second link. -/
theorem misplaced_links_found_once_behind_note :
    let text := "# *x*\n* Implements **A**\n* note\n* Implements **B**\n"
    let s : LinkSite :=
      { before := [.title (Range.onLine 0 2 5) [⟨['x'], Range.onLine 0 3 4⟩]]
        earlier :=
          [.link (Range.onLine 1 2 18) (.identifiers [⟨['A'], Range.onLine 1 15 16⟩]), .text (Range.onLine 2 2 6)]
        range := Range.onLine 3 2 18
        targets := .identifiers [⟨['B'], Range.onLine 3 15 16⟩] }
    s ∈ (Document.ofText text).links ∧
      (ofText "a.shalldn" text none).findings.count (.linkPlacement (Range.onLine 3 2 18)) = 1 := by
  intro text s
  have hs : s ∈ (Document.ofText text).links := by decide +kernel
  exact ⟨hs, (misplaced_links_found_once "a.shalldn" none).2 text s hs⟩

end Extraction

end Traceability
