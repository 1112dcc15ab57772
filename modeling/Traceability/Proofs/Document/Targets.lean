import Traceability.Proofs.Document.Items
import Traceability.Proofs.Document.Source
set_option autoImplicit false

/-!
# Targets of a link

An item whose text starts with the link word is a link, and its bold spans are its targets.  Without any the link word
is at fault; a single one is a target whatever it says; several are a list of identifiers with commas between them.  A
fault in such a list costs nothing but the target at fault, and each target is charged with its own faults only: with
what stands between it and the one before, and with what it says.
-/

namespace Traceability.Document

open Text

/-! ## Neighbours in a list -/

section Neighbours

variable {α : Type}

/-- The elements of a list, each with the one before it. -/
def withPrevious (xs : List α) : List (Option α × α) := (none :: xs.map some).zip xs

theorem withPrevious_cons (x : α) (rest : List α) :
    withPrevious (x :: rest) = (none, x) :: ((x :: rest).zip rest).map fun e => (some e.1, e.2) := by
  unfold withPrevious
  rw [List.zip_cons_cons, List.zip_map_left]
  rfl

theorem isChain_cons_iff_forall_mem_zip {R : α → α → Prop} {x : α} {rest : List α} :
    (x :: rest).IsChain R ↔ ∀ e ∈ (x :: rest).zip rest, R e.1 e.2 := by
  induction rest generalizing x with
  | nil => simp
  | cons y others ih => rw [List.isChain_cons_cons, List.zip_cons_cons, List.forall_mem_cons, ih]

theorem map_snd_withPrevious (xs : List α) : (withPrevious xs).map Prod.snd = xs := by
  apply List.map_snd_zip
  rw [List.length_cons, List.length_map]
  exact Nat.le_succ _

theorem isChain_iff_forall_mem_withPrevious {R : α → α → Prop} {xs : List α} :
    xs.IsChain R ↔ ∀ e ∈ withPrevious xs, ∀ p ∈ e.1, R p e.2 := by
  cases xs with
  | nil => simp [withPrevious]
  | cons x rest =>
    rw [isChain_cons_iff_forall_mem_zip, withPrevious_cons, List.forall_mem_cons, List.forall_mem_map]
    simp

end Neighbours

/-! ## Separators -/

/-- Only a comma stands between two spans, blanks and line endings apart. -/
def IsCommaBetween (ls : List NumberedLine) (s t : LocatedSpan) : Prop :=
  trim (sourceBetween ls s.stop t.start) = [',']

instance (ls : List NumberedLine) (s t : LocatedSpan) : Decidable (IsCommaBetween ls s t) :=
  inferInstanceAs (Decidable (_ = _))

namespace LocatedSpan

variable {s : LocatedSpan}

theorem IsWritten.stop_isOnLine (h : s.IsWritten) : s.stop.IsOnLine := by
  obtain ⟨before, after, htext, hstart⟩ := h
  have hlength := congrArg List.length htext
  have hsource := s.span.length_source
  have hstop : s.span.stop ≤ s.line.text.length := by
    simp only [List.length_append] at hlength
    omega
  exact hstop

theorem start_place_le_stop_place (s : LocatedSpan) : s.start.place ≤ s.stop.place := by
  rw [stop, ← s.span.length_source]
  exact Nat.le_add_right _ _

theorem IsWritten.start_isOnLine (h : s.IsWritten) : s.start.IsOnLine :=
  s.start_place_le_stop_place.trans h.stop_isOnLine

end LocatedSpan

theorem separatedByComma_iff {first : NumberedLine} {rest : List NumberedLine} (h : IsConsecutive (first :: rest))
    {place : Nat} {s t : LocatedSpan} (hs : s ∈ (spansOfLines (readingStarts first place rest)).value)
    (ht : t ∈ (spansOfLines (readingStarts first place rest)).value) (hle : s.stop.position ≤ t.start.position) :
    separatedByComma (first :: rest) s t = true ↔ IsCommaBetween (first :: rest) s t := by
  obtain ⟨hsline, hswritten, _⟩ := of_mem_spansOfLines h hs
  obtain ⟨htline, htwritten, _⟩ := of_mem_spansOfLines h ht
  have hnumber : s.line.number ≤ t.line.number := by
    rcases hle with hlt | ⟨heq, _⟩
    · exact Nat.le_of_lt hlt
    · exact heq.le
  have hcomma : isBlank ',' = false := by decide
  unfold separatedByComma IsCommaBetween
  rw [decide_eq_true_iff, trim_eq_singleton_iff hcomma, trim_eq_singleton_iff hcomma,
    cutsAtBlanks_textBetween cutsAtBlanks_inkOf h hsline htline hswritten.stop_isOnLine htwritten.start_isOnLine
      hnumber]

/-! ## One target -/

theorem ids_readTargets_singleton (start : Cursor) (ls : List NumberedLine) (s : LocatedSpan) :
    (readTargets start ls [s]).value.ids =
      [if isIdentifier s.span.text then s.span.text else collapse s.span.text] := by
  simp only [readTargets]
  split
  · rfl
  · rfl

/-! ## Several targets -/

/-- The faults of one of several targets, given the one before: there is no comma between them, or it is no
identifier. -/
def faultsBehind (ls : List NumberedLine) (previous : Option LocatedSpan) (s : LocatedSpan) : List SyntaxFault :=
  (if ∀ p ∈ previous, IsCommaBetween ls p s then [] else [s.start.fault .missingComma (some s.span.source)]) ++
    if isIdentifier s.span.text then [] else [s.start.fault .notIdentifier (some s.span.source)]

theorem faultsBehind_eq_nil_iff {ls : List NumberedLine} {previous : Option LocatedSpan} {s : LocatedSpan} :
    faultsBehind ls previous s = [] ↔ (∀ p ∈ previous, IsCommaBetween ls p s) ∧ isIdentifier s.span.text = true := by
  simp only [faultsBehind, List.append_eq_nil_iff, ite_eq_left_iff, List.cons_ne_nil, imp_false, not_not]

/-- A list of targets is free of faults just if they are identifiers with commas between them. -/
theorem flatMap_faultsBehind_eq_nil_iff {ls : List NumberedLine} {spans : List LocatedSpan} :
    (withPrevious spans).flatMap (fun e => faultsBehind ls e.1 e.2) = [] ↔
      (∀ s ∈ spans, isIdentifier s.span.text = true) ∧ spans.IsChain (IsCommaBetween ls) := by
  have hidentifier : (∀ e ∈ withPrevious spans, isIdentifier e.2.span.text = true) ↔
      ∀ s ∈ spans, isIdentifier s.span.text = true := by
    conv_rhs => rw [← map_snd_withPrevious spans, List.forall_mem_map]
  rw [List.flatMap_eq_nil_iff, ← hidentifier, isChain_iff_forall_mem_withPrevious, ← forall₂_and]
  simp only [faultsBehind_eq_nil_iff, and_comm]

theorem targetFaults_eq_faultsBehind {separated : Bool} {ls : List NumberedLine} {previous : Option LocatedSpan}
    {s : LocatedSpan} (h : separated = true ↔ ∀ p ∈ previous, IsCommaBetween ls p s) :
    targetFaults separated s = faultsBehind ls previous s := by
  unfold targetFaults faultsBehind
  simp only [h]

/-- Several targets are charged one by one. -/
theorem readTargets_of_two_le (start : Cursor) {ls : List NumberedLine} {spans : List LocatedSpan}
    (hcount : 2 ≤ spans.length)
    (hcomma : ∀ e ∈ withPrevious spans, ∀ p ∈ e.1, separatedByComma ls p e.2 = true ↔ IsCommaBetween ls p e.2) :
    (readTargets start ls spans).value.ids = (spans.map fun s => s.span.text).filter isIdentifier ∧
      (readTargets start ls spans).faults = (withPrevious spans).flatMap fun e => faultsBehind ls e.1 e.2 := by
  match spans with
  | first :: second :: others =>
    have hids : (readTargets start ls (first :: second :: others)).value.ids =
        (((first :: second :: others).filter fun s => isIdentifier s.span.text).map LocatedSpan.phrase).map
          Phrase.text := rfl
    have hread : (readTargets start ls (first :: second :: others)).faults =
        targetFaults true first ++ ((first :: second :: others).zip (second :: others)).flatMap
          fun e => targetFaults (separatedByComma ls e.1 e.2) e.2 := rfl
    have hfirst : targetFaults true first = faultsBehind ls none first :=
      targetFaults_eq_faultsBehind (by simp)
    have hlater : ∀ e ∈ (first :: second :: others).zip (second :: others),
        targetFaults (separatedByComma ls e.1 e.2) e.2 = faultsBehind ls (some e.1) e.2 := by
      intro e he
      have hmem : (some e.1, e.2) ∈ withPrevious (first :: second :: others) := by
        rw [withPrevious_cons]
        exact List.mem_cons_of_mem _ (List.mem_map_of_mem (f := fun e => (some e.1, e.2)) he)
      apply targetFaults_eq_faultsBehind
      rw [hcomma _ hmem e.1 rfl]
      simp
    constructor
    · rw [hids, List.map_map, List.filter_map]
      rfl
    · rw [hread, hfirst, withPrevious_cons, List.flatMap_cons, List.flatMap_map, List.flatMap_congr hlater]

/-! ## Items -/

namespace ItemLines

/-- The place where the text of an item starts. -/
def start (item : ItemLines) : Cursor := ⟨item.first, item.first.contentStart⟩

/-- The bold spans of an item, over all of its lines. -/
def boldSpans (item : ItemLines) : List LocatedSpan :=
  (spansOfLines (readingStarts item.first item.start.place item.rest)).value.filter LocatedSpan.isBold

/-- The text of an item starts with the link word, as a word of its own. -/
def StartsWithLinkWord (item : ItemLines) : Prop :=
  ∃ rest, item.first.text.drop item.start.place = linkWord ++ rest ∧ ∀ c ∈ rest.head?, isSegmentChar c = false

variable {item : ItemLines}

theorem isLink_of_startsWithLinkWord (h : item.StartsWithLinkWord) :
    isLink (item.first.text.drop item.start.place) = true := by
  obtain ⟨rest, htext, hword⟩ := h
  have hrest : (linkWord ++ rest).drop linkWord.length = rest := List.drop_left
  have hend : (rest.head?.any isSegmentChar) = false := by
    cases hhead : rest.head? with
    | none => rfl
    | some c => exact hword c hhead
  unfold isLink
  rw [htext, hrest, hend, Bool.not_false, Bool.and_true]
  exact List.isPrefixOf_iff_prefix.2 (List.prefix_append _ _)

theorem readItem_of_startsWithLinkWord (h : item.StartsWithLinkWord) :
    readItem item =
      ⟨.link (rangeBetween item.start (inkEnd item.first item.rest))
          (readTargets item.start item.lines item.boldSpans).value,
        (spansOfLines (readingStarts item.first item.start.place item.rest)).faults ++
          (readTargets item.start item.lines item.boldSpans).faults⟩ := by
  have hlink := isLink_of_startsWithLinkWord h
  unfold readItem
  simp only
  exact if_pos hlink

theorem isConsecutive_of_mem_ofLines {text : String} (h : item ∈ ofLines (numbered (Text.lines text))) :
    IsConsecutive item.lines := by
  obtain ⟨first, rest, hpart, _, hitem⟩ := exists_readList_of_mem_ofLines h
  exact ((isConsecutive_numbered _).part hpart).part (lines_infix_of_mem_ofList hitem)

/-- Whether only a comma stands between two neighbouring targets can be told from the source. -/
theorem separatedByComma_boldSpans_iff (h : IsConsecutive item.lines) :
    ∀ e ∈ withPrevious item.boldSpans, ∀ p ∈ e.1,
      separatedByComma item.lines p e.2 = true ↔ IsCommaBetween item.lines p e.2 := by
  have hordered : item.boldSpans.Pairwise fun s t => s.stop.position ≤ t.start.position :=
    (pairwise_spansOfLines h).sublist List.filter_sublist
  have hmem : ∀ s ∈ item.boldSpans, s ∈ (spansOfLines (readingStarts item.first item.start.place item.rest)).value :=
    fun s hs => (List.mem_filter.1 hs).1
  have hchain : item.boldSpans.IsChain fun s t =>
      s ∈ item.boldSpans ∧ t ∈ item.boldSpans ∧ s.stop.position ≤ t.start.position :=
    (List.Pairwise.and_mem.1 hordered).isChain
  intro e he p hp
  obtain ⟨hprevious, hself, hle⟩ := isChain_iff_forall_mem_withPrevious.1 hchain e he p hp
  exact separatedByComma_iff h (hmem p hprevious) (hmem e.2 hself) hle

end ItemLines

/-! ## Parse faults -/

/-- The faults of cutting lines into spans are none of putting them together. -/
theorem stage_of_mem_faults_spansOfLines {cs : List Cursor} {f : SyntaxFault} (h : f ∈ (spansOfLines cs).faults) :
    f.cause.stage = .lexical := by
  obtain ⟨c, _, hf⟩ := List.mem_flatMap.1 h
  unfold spansOfLine at hf
  obtain ⟨⟨kind, place⟩, _, rfl⟩ := Option.map_eq_some_iff.1 (Option.mem_toList.1 hf)
  rfl

theorem stage_of_mem_targetFaults {separated : Bool} {s : LocatedSpan} {f : SyntaxFault}
    (h : f ∈ targetFaults separated s) : f.cause.stage = .parse := by
  unfold targetFaults at h
  rcases List.mem_append.1 h with h | h
  · split at h
    · cases h
    · rw [List.mem_singleton.1 h]
      rfl
  · split at h
    · cases h
    · rw [List.mem_singleton.1 h]
      rfl

theorem stage_of_mem_faults_readTargets {start : Cursor} {ls : List NumberedLine} {spans : List LocatedSpan}
    {f : SyntaxFault} (h : f ∈ (readTargets start ls spans).faults) : f.cause.stage = .parse := by
  match spans with
  | [] =>
    rw [List.mem_singleton.1 h]
    rfl
  | [s] =>
    rw [(readTargets_singleton start ls s).2] at h
    cases h
  | first :: second :: others =>
    rcases List.mem_append.1 h with h | h
    · exact stage_of_mem_targetFaults h
    · obtain ⟨e, _, h⟩ := List.mem_flatMap.1 h
      exact stage_of_mem_targetFaults h

/-- The parse faults of a document on some lines. -/
def parseFaultsOn (document : Document) (ls : List NumberedLine) : List SyntaxFault :=
  document.faults.filter fun f => f.cause.stage = .parse && f.range.start.line ∈ ls.map NumberedLine.number

/-- The parse faults on the lines of a link are those of its targets. -/
theorem parseFaultsOn_lines {text : String} {item : ItemLines}
    (hitem : item ∈ ItemLines.ofLines (numbered (Text.lines text))) (hlink : item.StartsWithLinkWord) :
    parseFaultsOn (Document.ofText text) item.lines = (readTargets item.start item.lines item.boldSpans).faults := by
  have hlexical : (spansOfLines (readingStarts item.first item.start.place item.rest)).faults.filter
      (fun f => f.cause.stage = .parse) = [] :=
    List.filter_eq_nil_iff.2 fun f hf => by simp [stage_of_mem_faults_spansOfLines hf]
  have hparse : (readTargets item.start item.lines item.boldSpans).faults.filter (fun f => f.cause.stage = .parse) =
      (readTargets item.start item.lines item.boldSpans).faults :=
    List.filter_eq_self.2 fun f hf => decide_eq_true (stage_of_mem_faults_readTargets hf)
  unfold parseFaultsOn
  rw [← List.filter_filter, filter_faults_of_mem_ofLines hitem, ItemLines.readItem_of_startsWithLinkWord hlink]
  simp only [List.filter_append, hlexical, hparse, List.nil_append]

/-- An item whose text starts with the link word is a link, and its bold spans `b₁`, …, `bₙ` say what it points at and
what is wrong with it.  Without any it has no id, and its one parse fault is at the link word.  A single one is its id,
as it is if it is an identifier and with single spaces between its words otherwise.  From two on its ids are those that
are identifiers, and its parse faults are, for each of them in order, a missing comma at `bᵢ` if anything but one comma
stands between `bᵢ₋₁` and `bᵢ` in the source, and then `bᵢ` itself if it is no identifier; so there is none just if the
item is a list of identifiers with commas between them. -/
theorem link_targets_and_faults {text : String} {k : Nat} {item : ItemLines}
    (hitem : (ItemLines.ofLines (numbered (Text.lines text)))[k]? = some item) (hlink : item.StartsWithLinkWord) :
    let document := Document.ofText text
    let bold := item.boldSpans
    let faults := parseFaultsOn document item.lines
    ∃ targets, document.items[k]? = some (.link (rangeBetween item.start (inkEnd item.first item.rest)) targets) ∧
      (bold = [] → targets.ids = [] ∧ faults = [item.start.fault .missingTarget (some linkWord)]) ∧
      (∀ b, bold = [b] →
        targets.ids = [if isIdentifier b.span.text then b.span.text else collapse b.span.text] ∧ faults = []) ∧
      (2 ≤ bold.length →
        targets.ids = (bold.map fun b => b.span.text).filter isIdentifier ∧
        faults = ((withPrevious bold).flatMap fun e => faultsBehind item.lines e.1 e.2) ∧
        (faults = [] ↔
          (∀ b ∈ bold, isIdentifier b.span.text = true) ∧ bold.IsChain (IsCommaBetween item.lines))) := by
  intro document bold faults
  have hmem := List.mem_of_getElem? hitem
  have hconsecutive := ItemLines.isConsecutive_of_mem_ofLines hmem
  have hfaults : faults = (readTargets item.start item.lines bold).faults := parseFaultsOn_lines hmem hlink
  refine ⟨(readTargets item.start item.lines bold).value, ?_, ?_, ?_, ?_⟩
  · rw [items_ofText, List.getElem?_map, hitem, Option.map_some, ItemLines.readItem_of_startsWithLinkWord hlink]
  · intro hnone
    rw [hfaults, hnone]
    exact ⟨rfl, rfl⟩
  · intro b hsingle
    rw [hfaults, hsingle]
    exact ⟨ids_readTargets_singleton item.start item.lines b, (readTargets_singleton item.start item.lines b).2⟩
  · intro hseveral
    obtain ⟨hids, hcharged⟩ := readTargets_of_two_le item.start hseveral
      (ItemLines.separatedByComma_boldSpans_iff hconsecutive)
    rw [hfaults, hcharged]
    exact ⟨hids, rfl, flatMap_faultsBehind_eq_nil_iff⟩

theorem link_targets_and_faults_over_two_lines :
    let text := "# *x*\n* Implements **A**,\n  **B** **no id**\n"
    let item : ItemLines := ⟨⟨1, "* Implements **A**,".toList⟩, [⟨2, "  **B** **no id**".toList⟩]⟩
    let third : LocatedSpan := ⟨⟨2, "  **B** **no id**".toList⟩, ⟨.bold, 8, "no id".toList⟩⟩
    (ItemLines.ofLines (numbered (Text.lines text)))[0]? = some item ∧ item.StartsWithLinkWord ∧
      2 ≤ item.boldSpans.length ∧
      ∃ targets, (Document.ofText text).items[0]? = some (.link ⟨⟨1, 2⟩, ⟨2, 17⟩⟩ targets) ∧
        targets.ids = ["A".toList, "B".toList] ∧
        parseFaultsOn (Document.ofText text) item.lines =
          [third.start.fault .missingComma (some "**no id**".toList),
            third.start.fault .notIdentifier (some "**no id**".toList)] := by
  intro text item third
  have hitem : (ItemLines.ofLines (numbered (Text.lines text)))[0]? = some item := by decide +kernel
  have hlink : item.StartsWithLinkWord := by
    refine ⟨' ' :: "**A**,".toList, by decide +kernel, ?_⟩
    intro c hc
    obtain rfl := Option.some.inj hc
    decide +kernel
  have hseveral : 2 ≤ item.boldSpans.length := by decide +kernel
  have hrange : rangeBetween item.start (inkEnd item.first item.rest) = ⟨⟨1, 2⟩, ⟨2, 17⟩⟩ := by decide +kernel
  obtain ⟨targets, hread, _, _, htargets⟩ := link_targets_and_faults hitem hlink
  obtain ⟨hids, hfaults, _⟩ := htargets hseveral
  refine ⟨hitem, hlink, hseveral, targets, ?_, ?_, ?_⟩
  · rw [← hrange]
    exact hread
  · rw [hids]
    decide +kernel
  · rw [hfaults]
    decide +kernel

end Traceability.Document
