import Traceability.Proofs.Document.Wrapping
import Traceability.Proofs.Extraction.Walk
set_option autoImplicit false

/-!
# Line wrapping changes no requirement

What is extracted from a document, places apart, is a matter of what its blocks say: of their texts, and of the words of
the clauses.  Breaking a line of a requirement leaves all of this alone.  So the ids are the same, and so is what is
found, above all whether a requirement is about the subject.
-/

namespace Traceability

open Text Document

/-! ## Findings -/

/-- What a finding says, wherever it was found. -/
def Finding.wording (f : Finding) : Category × String × List String :=
  (f.category, f.message, f.remarks.map Remark.message)

namespace Extraction

/-! ## What is extracted from blocks -/

section SaysSame

variable {block block' : Block} (h : block.SaysSame block')

include h

theorem definitionsOf_saysSame (uri : String) :
    (definitionsOf uri block').map Definition.id = (definitionsOf uri block).map Definition.id := by
  have hheading (level : Nat) (range : Range) (phrases : List Phrase) :
      (definitionsOf uri (.heading level range phrases)).map Definition.id =
        if (phrases.map Phrase.text).length = 1 then (phrases.map Phrase.text).map String.ofList else [] := by
    rcases phrases with _ | ⟨phrase, _ | ⟨second, rest⟩⟩
    · rfl
    · rfl
    · exact (if_neg (by simp)).symm
  cases h with
  | title range range' h => rfl
  | heading level range range' h => rw [hheading, hheading, h]
  | sentence range range' => rfl
  | requirement range range' hid hclause => exact congrArg (fun text => [String.ofList text]) hid
  | list range range' h => rfl

theorem referencesOf_saysSame (uri : String) :
    (referencesOf uri block').map Reference.id = (referencesOf uri block).map Reference.id := by
  have hitem (item : ListItem) :
      (referencesOfItem uri item).map Reference.id = (item.claims?.getD []).map String.ofList := by
    cases item with
    | text range => rfl
    | link range targets => exact List.map_map
  have hlist (range : Range) (items : List ListItem) :
      (referencesOf uri (.list range items)).map Reference.id =
        (items.map ListItem.claims?).flatMap fun claims => (claims.getD []).map String.ofList := by
    unfold referencesOf
    simp only [List.map_flatMap, hitem, List.flatMap_map]
  cases h with
  | title range range' h => rfl
  | heading level range range' h => rfl
  | sentence range range' => rfl
  | requirement range range' hid hclause => rfl
  | list range range' h => rw [hlist, hlist, h]

theorem subjectOf?_saysSame : subjectOf? block' = subjectOf? block := by
  have htitle (range : Range) (phrases : List Phrase) :
      subjectOf? (.title range phrases) = (phrases.map Phrase.text).head? := by
    cases phrases with
    | nil => rfl
    | cons phrase others => rfl
  cases h with
  | title range range' h => rw [htitle, htitle, h]
  | heading level range range' h => rfl
  | sentence range range' => rfl
  | requirement range range' hid hclause => rfl
  | list range range' h => rfl

end SaysSame

/-! ## What is found -/

theorem wording_mismatch (subject : Option (List Char)) {clause clause' : Option Phrase}
    (h : clause'.map (fun c => plainText c.text) = clause.map (fun c => plainText c.text)) :
    (mismatch subject clause').map Finding.wording = (mismatch subject clause).map Finding.wording := by
  have hsome (subject : List Char) (clause : Phrase) : (mismatch (some subject) (some clause)).map Finding.wording =
      if (plainText subject).isSuffixOf (plainText clause.text) then []
      else [(Finding.subjectMismatch (String.ofList subject) default).wording] :=
    apply_ite (List.map Finding.wording) _ _ _
  cases subject with
  | none => rfl
  | some subject =>
    cases clause with
    | none =>
      rw [Option.map_eq_none_iff.1 h]
    | some c =>
      obtain ⟨c', rfl, hwords⟩ := Option.map_eq_some_iff.1 h
      rw [hsome, hsome, hwords]

theorem wording_itemFindings (attached : Bool) {items items' : List ListItem}
    (h : items'.map ListItem.claims? = items.map ListItem.claims?) :
    (itemFindings attached items').map Finding.wording = (itemFindings attached items).map Finding.wording := by
  induction items generalizing attached items' with
  | nil => rw [List.map_eq_nil_iff.1 h]
  | cons item rest ih =>
    obtain ⟨item', rest', rfl, hitem, hrest⟩ := List.map_eq_cons_iff.1 h
    cases item with
    | text range =>
      cases item' with
      | text range' => rw [itemFindings_text, itemFindings_text, ih false hrest]
      | link range' targets' => cases hitem
    | link range targets =>
      cases item' with
      | text range' => cases hitem
      | link range' targets' =>
        rw [itemFindings_link, itemFindings_link]
        cases attached with
        | true => exact ih true hrest
        | false => exact congrArg (_ :: ·) (ih false hrest)

/-- What is found on a walk depends on what the blocks say. -/
theorem wording_walk {blocks blocks' : List Block} (h : List.Forall₂ Block.SaysSame blocks blocks')
    (subject : Option (List Char)) (attached : Bool) :
    (walk subject attached blocks').map Finding.wording = (walk subject attached blocks).map Finding.wording := by
  induction h generalizing subject attached with
  | nil => rfl
  | @cons block block' rest rest' hblock _ ih =>
    have hsubject := subjectOf?_saysSame hblock
    cases hblock with
    | title range range' h => simp only [walk, hsubject, ih]
    | heading level range range' h =>
      have hlength := congrArg List.length h
      rw [List.length_map, List.length_map] at hlength
      simp only [walk, List.map_append, ih, hlength]
      split
      · rfl
      · rfl
    | sentence range range' => exact ih subject false
    | requirement range range' hid hclause => simp only [walk, List.map_append, ih, wording_mismatch subject hclause]
    | list range range' h => simp only [walk, List.map_append, ih, wording_itemFindings attached h]

theorem wording_toFinding (remarkUri : Option String) {faults faults' : List SyntaxFault}
    (h : faults'.map SyntaxFault.wording = faults.map SyntaxFault.wording) :
    (faults'.map (·.toFinding remarkUri)).map Finding.wording =
      (faults.map (·.toFinding remarkUri)).map Finding.wording := by
  have hlist (faults : List SyntaxFault) : (faults.map (·.toFinding remarkUri)).map Finding.wording =
      (faults.map SyntaxFault.wording).map fun said =>
        (.syntaxError, "Syntax error", (remarkUri.map fun _ => said.1.message).toList) := by
    rw [List.map_map, List.map_map]
    cases remarkUri with
    | none => rfl
    | some uri => rfl
  rw [hlist, hlist, h]

/-! ## Documents -/

/-- What is made of each block by itself from what it says. -/
theorem map_saysSame {β : Type} {f : Block → β} (hf : ∀ block block', block.SaysSame block' → f block' = f block)
    {blocks blocks' : List Block} (h : List.Forall₂ Block.SaysSame blocks blocks') : blocks'.map f = blocks.map f := by
  induction h with
  | nil => rfl
  | cons hblock _ ih => rw [List.map_cons, List.map_cons, ih, hf _ _ hblock]

/-- Documents with the same faults whose blocks say the same contribute the same, places apart. -/
theorem ofDocument_saysSame {document document' : Document}
    (hblocks : List.Forall₂ Block.SaysSame document.blocks document'.blocks)
    (hfaults : document'.faults.map SyntaxFault.wording = document.faults.map SyntaxFault.wording) (uri : String)
    (remarkUri : Option String) :
    (ofDocument uri document' remarkUri).subject = (ofDocument uri document remarkUri).subject ∧
      (ofDocument uri document' remarkUri).definitions.map Definition.id =
        (ofDocument uri document remarkUri).definitions.map Definition.id ∧
      (ofDocument uri document' remarkUri).references.map Reference.id =
        (ofDocument uri document remarkUri).references.map Reference.id ∧
      (ofDocument uri document' remarkUri).findings.map Finding.wording =
        (ofDocument uri document remarkUri).findings.map Finding.wording := by
  unfold ofDocument
  simp only [List.map_flatMap, List.map_append]
  refine ⟨?_, ?_, ?_, ?_⟩
  · have hsubject := map_saysSame (fun _ _ => subjectOf?_saysSame) hblocks
    have hfind (blocks : List Block) : blocks.findSome? subjectOf? = (blocks.map subjectOf?).findSome? id := by
      rw [List.findSome?_map]
      rfl
    rw [hfind, hfind, hsubject]
  · have hdefinitions := map_saysSame (fun _ _ h => definitionsOf_saysSame h uri) hblocks
    rw [List.flatMap_def, List.flatMap_def, hdefinitions]
  · have hreferences := map_saysSame (fun _ _ h => referencesOf_saysSame h uri) hblocks
    rw [List.flatMap_def, List.flatMap_def, hreferences]
  · rw [wording_toFinding remarkUri hfaults, wording_walk hblocks]

end Extraction

/-- Breaking a line of a requirement in a gap that no span reaches across, with text on both sides of it, does not
change the requirement.  The block in its place is a requirement with the same id, and it has a clause just if there was
one, in the same plain text; the other blocks are the same, further down behind the break; and there is no other fault.
So the file contributes the same ids, and the same is found in it: whether a requirement is about the subject does not
depend on where its lines end. -/
theorem ofText_break_line {text text' : String} {front back : List Line} (b : LineBreak)
    (htext : lines text = front ++ b.line :: back) (htext' : lines text' = front ++ b.front :: b.back :: back)
    {before after : List Block} {range : Range} {id : Phrase} {clause : Option Phrase}
    (hblocks : (Document.ofText text).blocks = before ++ .requirement range id clause :: after)
    (hline : front.length ∈ range.lineNumbers)
    (hlexical : ∀ f ∈ (Document.ofText text).faults, f.cause.stage = .lexical → f.line - 1 ∉ range.lineNumbers) :
    (∃ range' id' clause',
        (Document.ofText text').blocks = before ++ .requirement range' id' clause' :: after.map (Block.shift 1) ∧
          id'.text = id.text ∧
          clause'.map (fun c => plainText c.text) = clause.map (fun c => plainText c.text)) ∧
      (Document.ofText text').faults.map SyntaxFault.wording = (Document.ofText text).faults.map SyntaxFault.wording ∧
      ∀ uri remarkUri,
        let extraction := Extraction.ofText uri text remarkUri
        let extraction' := Extraction.ofText uri text' remarkUri
        extraction'.subject = extraction.subject ∧
          extraction'.definitions.map Definition.id = extraction.definitions.map Definition.id ∧
          extraction'.references.map Reference.id = extraction.references.map Reference.id ∧
          extraction'.findings.map Finding.wording = extraction.findings.map Finding.wording := by
  obtain ⟨block', hblocks', hequal, hfaults⟩ := b.ofText_broken htext htext' hblocks hline hlexical
  refine ⟨?_, hfaults, fun uri remarkUri => Extraction.ofDocument_saysSame ?_ hfaults uri remarkUri⟩
  · cases hequal with
    | requirement range range' hid hclause => exact ⟨range', _, _, hblocks', hid, hclause⟩
  · rw [hblocks, hblocks']
    have hbefore : List.Forall₂ Block.SaysSame before before := List.forall₂_same.2 fun block _ => block.saysSame_refl
    have hafter : List.Forall₂ Block.SaysSame after (after.map (Block.shift 1)) :=
      List.forall₂_map_right_iff.2 (List.forall₂_same.2 fun block _ => block.saysSame_shift 1)
    exact List.rel_append hbefore (.cons hequal hafter)

/-- A line may be broken behind a literal asterisk that stands in front of the gap. -/
theorem ofText_break_line_behind_asterisk :
    let text := "*Tool*\n\n**A.B** The * Tool **shall** run.\nIt *does*.\n\n* Implements **A.B**\n"
    let text' := "*Tool*\n\n**A.B** The *\nTool **shall** run.\nIt *does*.\n\n* Implements **A.B**\n"
    (Document.ofText text).faults = [] ∧ (Document.ofText text').faults = [] ∧
      (Extraction.ofText "tool.md" text' none).definitions.map Definition.id = ["A.B"] ∧
      (Extraction.ofText "tool.md" text' none).references.map Reference.id = ["A.B"] ∧
      (Extraction.ofText "tool.md" text' none).findings = [] := by
  intro text text'
  let b : LineBreak :=
    { front := "**A.B** The *".toList
      gap := [' ']
      back := "Tool **shall** run.".toList
      gap_ne_nil := by decide
      isBlank_gap := List.forall_mem_singleton.2 rfl
      isApart := by decide +kernel
      isBlankLine_front := by decide
      isText_back := ⟨false, by decide +kernel⟩ }
  let front := ["*Tool*".toList, []]
  let back := ["It *does*.".toList, [], "* Implements **A.B**".toList, []]
  have htext : lines text = front ++ b.line :: back := by decide +kernel
  have htext' : lines text' = front ++ b.front :: b.back :: back := by decide +kernel
  let clause : Phrase := ⟨" The * Tool ".toList, .onLine 2 7 19⟩
  have hblocks : (Document.ofText text).blocks = (Document.ofText text).blocks.take 1 ++
      .requirement ⟨⟨2, 0⟩, ⟨3, 10⟩⟩ ⟨"A.B".toList, .onLine 2 2 5⟩ (some clause) ::
        (Document.ofText text).blocks.drop 2 := by decide +kernel
  have hnone : (Document.ofText text).faults = [] := by decide +kernel
  have hlexical : ∀ f ∈ (Document.ofText text).faults, f.cause.stage = .lexical →
      f.line - 1 ∉ Range.lineNumbers ⟨⟨2, 0⟩, ⟨3, 10⟩⟩ := by
    rw [hnone]
    exact fun f hf => absurd hf List.not_mem_nil
  obtain ⟨-, hfaults, hsame⟩ := ofText_break_line b htext htext' hblocks (by decide) hlexical
  obtain ⟨-, hdefinitions, hreferences, hfindings⟩ := hsame "tool.md" none
  have hold : (Extraction.ofText "tool.md" text none).definitions.map Definition.id = ["A.B"] ∧
      (Extraction.ofText "tool.md" text none).references.map Reference.id = ["A.B"] ∧
      (Extraction.ofText "tool.md" text none).findings = [] := by decide +kernel
  rw [hnone] at hfaults
  rw [hold.2.2] at hfindings
  exact ⟨hnone, List.map_eq_nil_iff.1 hfaults, hdefinitions.trans hold.1, hreferences.trans hold.2.1,
    List.map_eq_nil_iff.1 hfindings⟩

end Traceability
