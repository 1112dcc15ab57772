import Traceability.Proofs.Extraction.Placement
set_option autoImplicit false

/-!
# What a document declares

Whatever is wrong with a document, each of its requirements and named headings is defined, each target of each link is
claimed, and each fault and each flaw is found once.  A document has its subject from its title, which is its first
block; so every requirement is compared with the subject of the whole document.
-/

namespace Traceability

open Text Document

/-- Whether the block defines something: it is a requirement, or a heading with one italic phrase. -/
def Document.Block.isDeclaration : Block → Bool
  | requirement _ _ _ => true
  | heading _ _ [_] => true
  | _ => false

namespace Extraction

/-- What a block defines. -/
inductive Declares (uri : String) : Block → Definition → Prop
  | requirement (range : Range) (id : Phrase) (clause : Option Phrase) :
    Declares uri (.requirement range id clause) ⟨String.ofList id.text, uri, range, id.range⟩
  | heading (level : Nat) (range : Range) (phrase : Phrase) :
    Declares uri (.heading level range [phrase]) ⟨String.ofList phrase.text, uri, phrase.range, phrase.range⟩

/-- What is wrong with a block of a document with some subject, given the blocks before it. -/
inductive Finds (subject : Option (List Char)) (before : List Block) : Block → List Finding → Prop
  | title (range : Range) (phrases : List Phrase) : Finds subject before (.title range phrases) []
  | heading (level : Nat) (range : Range) (phrases : List Phrase) (h : phrases.length ≤ 1) :
    Finds subject before (.heading level range phrases) []
  | ambiguous (level : Nat) (range : Range) (phrases : List Phrase) (h : 2 ≤ phrases.length) :
    Finds subject before (.heading level range phrases) [.multipleInformalIdentifiers range]
  | sentence (range : Range) : Finds subject before (.sentence range) []
  | agreeing (range : Range) (id : Phrase) (clause : Option Phrase)
    (h : ∀ s ∈ subject, ∀ c ∈ clause, plainText s <:+ plainText c.text) :
    Finds subject before (.requirement range id clause) []
  | differing (range : Range) (id clause : Phrase) (s : List Char) (hs : subject = some s)
    (h : ¬ plainText s <:+ plainText clause.text) :
    Finds subject before (.requirement range id (some clause)) [.subjectMismatch (String.ofList s) clause.range]
  | list (range : Range) (items : List ListItem) :
    Finds subject before (.list range items) (misplacements (LinkSite.ofBlock before (.list range items)))

/-! ## Definitions -/

/-- A block defines one requirement or none. -/
theorem definitionsOf_cases (uri : String) (block : Block) :
    (block.isDeclaration = false ∧ definitionsOf uri block = []) ∨
      block.isDeclaration = true ∧ ∃ d, Declares uri block d ∧ definitionsOf uri block = [d] := by
  cases block with
  | title range phrases => exact .inl ⟨rfl, rfl⟩
  | heading level range phrases =>
    match phrases with
    | [] => exact .inl ⟨rfl, rfl⟩
    | [phrase] => exact .inr ⟨rfl, _, .heading level range phrase, rfl⟩
    | first :: second :: others => exact .inl ⟨rfl, rfl⟩
  | sentence range => exact .inl ⟨rfl, rfl⟩
  | requirement range id clause => exact .inr ⟨rfl, _, .requirement range id clause, rfl⟩
  | list range items => exact .inl ⟨rfl, rfl⟩

theorem forall₂_declares (uri : String) (blocks : List Block) :
    List.Forall₂ (Declares uri) (blocks.filter Block.isDeclaration) (blocks.flatMap (definitionsOf uri)) := by
  induction blocks with
  | nil => exact .nil
  | cons block rest ih =>
    rw [List.flatMap_cons]
    rcases definitionsOf_cases uri block with ⟨hdeclares, hnone⟩ | ⟨hdeclares, d, hd, hsome⟩
    · rw [hnone, List.filter_cons_of_neg (by rw [hdeclares]; exact Bool.false_ne_true)]
      exact ih
    · rw [hsome, List.filter_cons_of_pos hdeclares]
      exact .cons hd ih

/-! ## Subjects -/

theorem subjectOf?_eq_some_iff {block : Block} {s : List Char} :
    subjectOf? block = some s ↔ ∃ range phrase others, block = .title range (phrase :: others) ∧ phrase.text = s := by
  unfold subjectOf?
  split
  · next range phrase others =>
    constructor
    · intro h
      exact ⟨range, phrase, others, rfl, Option.some.inj h⟩
    · rintro ⟨_, _, _, hblock, rfl⟩
      obtain ⟨rfl, hphrases⟩ := Block.title.inj hblock
      rw [(List.cons.inj hphrases).1]
  · next hnone =>
    constructor
    · intro h
      cases h
    · rintro ⟨range, phrase, others, rfl, _⟩
      exact absurd rfl (hnone range phrase others)

theorem subjectOf?_readChunk (c : Chunk) : subjectOf? (readChunk c).value = none := by
  cases c with
  | heading level line => rfl
  | paragraph first rest =>
    have hparagraph : (readChunk (.paragraph first rest)).value = (readParagraph first rest).value := rfl
    rw [hparagraph]
    rcases readParagraph_cases first rest with hvalue | ⟨id, clause, _, hvalue⟩
    · rw [hvalue]
      rfl
    · rw [hvalue]
      rfl
  | list first rest => rfl

/-- Only the first block of a text may be a title. -/
theorem subjectOf?_of_mem_tail {text : String} {block : Block} (h : block ∈ (Document.ofText text).blocks.tail) :
    subjectOf? block = none := by
  have hbody : ∀ ls, ∀ block ∈ (readBody ls).map Reading.value, subjectOf? block = none := by
    intro ls block hblock
    obtain ⟨read, hread, rfl⟩ := List.mem_map.1 hblock
    obtain ⟨c, _, rfl⟩ := List.mem_map.1 hread
    exact subjectOf?_readChunk c
  have hblocks : (Document.ofText text).blocks = (readLines (numbered (lines text))).map Reading.value := rfl
  rw [hblocks] at h
  cases hlines : numbered (lines text) with
  | nil =>
    rw [hlines] at h
    cases h
  | cons first rest =>
    rw [hlines, readLines_cons] at h
    split at h
    · exact hbody rest block h
    · exact hbody (first :: rest) block (List.mem_of_mem_tail h)

/-- Whatever is no title is compared with the subject of the whole text. -/
theorem findSome?_subjectOf?_before {text : String} {before after : List Block} {block : Block}
    (hblocks : (Document.ofText text).blocks = before ++ block :: after) (hblock : subjectOf? block = none) :
    before.findSome? subjectOf? = (Document.ofText text).blocks.findSome? subjectOf? := by
  have hafter : (block :: after).findSome? subjectOf? = none := by
    rw [List.findSome?_eq_none_iff]
    intro b hb
    rcases List.mem_cons.1 hb with rfl | hb
    · exact hblock
    · have htail : b ∈ (Document.ofText text).blocks.tail := by
        rw [hblocks]
        cases before with
        | nil => exact hb
        | cons first others => exact List.mem_append_right others (List.mem_cons_of_mem block hb)
      exact subjectOf?_of_mem_tail htail
  rw [hblocks, List.findSome?_append, hafter, Option.or_none]

/-- The subject of a text is the first italic phrase of its title. -/
theorem subject_eq_some_iff (text : String) (s : List Char) :
    (Document.ofText text).blocks.findSome? subjectOf? = some s ↔
      ∃ range phrase others, .title range (phrase :: others) ∈ (Document.ofText text).blocks ∧ phrase.text = s := by
  constructor
  · intro h
    obtain ⟨block, hblock, hsome⟩ := List.exists_of_findSome?_eq_some h
    obtain ⟨range, phrase, others, rfl, htext⟩ := subjectOf?_eq_some_iff.1 hsome
    exact ⟨range, phrase, others, hblock, htext⟩
  · rintro ⟨range, phrase, others, hmem, htext⟩
    have hsome := subjectOf?_eq_some_iff.2 ⟨range, phrase, others, rfl, htext⟩
    cases hblocks : (Document.ofText text).blocks with
    | nil =>
      rw [hblocks] at hmem
      cases hmem
    | cons first rest =>
      rw [hblocks] at hmem
      rcases List.mem_cons.1 hmem with rfl | hrest
      · rw [List.findSome?_cons, hsome]
      · have htail : .title range (phrase :: others) ∈ (Document.ofText text).blocks.tail := by
          rw [hblocks]
          exact hrest
        cases (subjectOf?_of_mem_tail htail).symm.trans hsome

/-! ## Findings -/

/-- A requirement is found different from the subject just if it says something else. -/
theorem finds_mismatch (subject : Option (List Char)) (before : List Block) (range : Range) (id : Phrase)
    (clause : Option Phrase) : Finds subject before (.requirement range id clause) (mismatch subject clause) := by
  cases subject with
  | none => exact .agreeing range id clause fun s hs => by cases hs
  | some s =>
    cases clause with
    | none => exact .agreeing range id none fun s hs c hc => by cases hc
    | some c =>
      unfold mismatch
      simp only
      split
      · next hsuffix =>
        refine .agreeing range id (some c) fun s' hs' c' hc' => ?_
        obtain rfl := Option.some.inj hs'
        obtain rfl := Option.some.inj hc'
        exact List.isSuffixOf_iff_suffix.1 hsuffix
      · next hsuffix => exact .differing range id c s rfl fun h => hsuffix (List.isSuffixOf_iff_suffix.2 h)

/-- What is found at a block depends on the blocks before and, if it is a requirement, on the subject so far. -/
theorem finds_findingsAt_of_subject {subject : Option (List Char)} {before : List Block} {block : Block}
    (h : ∀ range id clause, block = .requirement range id clause → before.findSome? subjectOf? = subject) :
    Finds subject before block (findingsAt before block) := by
  cases block with
  | title range phrases => exact .title range phrases
  | heading level range phrases =>
    simp only [findingsAt]
    split
    · next hseveral => exact .ambiguous level range phrases hseveral
    · next hseveral => exact .heading level range phrases (Nat.le_of_not_lt hseveral)
  | sentence range => exact .sentence range
  | requirement range id clause =>
    rw [← h range id clause rfl]
    exact finds_mismatch _ before range id clause
  | list range items => exact .list range items

/-- What is found at a block of a text depends on the subject of the text and the blocks before. -/
theorem finds_findingsAt {text : String} {before : List Block} {block : Block}
    (h : (before, block) ∈ withEarlier (Document.ofText text).blocks) :
    Finds ((Document.ofText text).blocks.findSome? subjectOf?) before block (findingsAt before block) := by
  obtain ⟨after, hblocks⟩ := mem_withEarlier_iff.1 h
  refine finds_findingsAt_of_subject fun range id clause hrequirement => ?_
  exact findSome?_subjectOf?_before hblocks (by rw [hrequirement]; rfl)

/-- Only what is wrong with the document as a whole comes with a remark. -/
theorem Finds.remarks_eq {subject : Option (List Char)} {before : List Block} {block : Block} {group : List Finding}
    (h : Finds subject before block group) : ∀ f ∈ group, f.remarks = [] := by
  intro f hf
  cases h with
  | title range phrases => cases hf
  | heading level range phrases h => cases hf
  | ambiguous level range phrases h =>
    obtain rfl := List.mem_singleton.1 hf
    rfl
  | sentence range => cases hf
  | agreeing range id clause h => cases hf
  | differing range id clause s hs h =>
    obtain rfl := List.mem_singleton.1 hf
    rfl
  | list range items =>
    obtain ⟨s, _, _, rfl⟩ := mem_misplacements_iff.1 hf
    rfl

/-- Reading off a text what it declares loses nothing and adds nothing.  Its definitions are one for each requirement
and each heading with one italic phrase, its claims one for each target of each link, both in order.  Its findings are
one for each fault, then those of its blocks, then one at the end if it has no subject, and that one stands nowhere
else. -/
theorem ofText_declarations (uri text : String) (remarkUri : Option String) :
    let document := Document.ofText text
    let extraction := ofText uri text remarkUri
    List.Forall₂ (Declares uri) (document.blocks.filter Block.isDeclaration) extraction.definitions ∧
      extraction.references = document.links.flatMap (LinkSite.references uri) ∧
      ∃ subject groups,
        (∀ s, subject = some s ↔
          ∃ range phrase others, .title range (phrase :: others) ∈ document.blocks ∧ phrase.text = s) ∧
        List.Forall₂ (fun e group => Finds subject e.1 e.2 group) (withEarlier document.blocks) groups ∧
        extraction.findings = document.faults.map (·.toFinding remarkUri) ++ groups.flatten ++
          (if subject.isNone then [.missingSubject] else []) ∧
        .missingSubject ∉ document.faults.map (·.toFinding remarkUri) ++ groups.flatten := by
  intro document extraction
  have hgroups : List.Forall₂ (fun e group => Finds (document.blocks.findSome? subjectOf?) e.1 e.2 group)
      (withEarlier document.blocks) ((withEarlier document.blocks).map fun e => findingsAt e.1 e.2) := by
    rw [List.forall₂_map_right_iff, List.forall₂_same]
    exact fun e he => finds_findingsAt he
  refine ⟨forall₂_declares uri document.blocks, references_ofDocument uri document remarkUri,
    document.blocks.findSome? subjectOf?, _, subject_eq_some_iff text, hgroups, ?_, ?_⟩
  · have hfindings : extraction.findings = _ := findings_ofDocument uri document remarkUri
    rw [hfindings, ← List.flatMap_def, List.append_assoc]
    rfl
  · intro hmem
    rcases List.mem_append.1 hmem with hfault | hblock
    · obtain ⟨fault, _, heq⟩ := List.mem_map.1 hfault
      cases congrArg Finding.category heq
    · obtain ⟨group, hgroup, hf⟩ := List.mem_flatten.1 hblock
      obtain ⟨e, he, rfl⟩ := List.mem_map.1 hgroup
      cases (finds_findingsAt he).remarks_eq _ hf

end Extraction

end Traceability
