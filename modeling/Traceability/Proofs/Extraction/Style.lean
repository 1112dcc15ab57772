import Mathlib.Logic.Relation
import Traceability.Proofs.Document.Wrapping
import Traceability.Proofs.Extraction.Declarations
set_option autoImplicit false

/-!
# The style of subjects and clauses

Plain text is a matter of the words of a text, less its asterisks.  So emphasis and spacing do not decide whether a
requirement is found to be about the subject of its document, neither those of the subject nor those of its own clause.
-/

namespace Traceability

open Text Document

/-! ## Plain text -/

theorem plainText_eq_plainText_iff (s t : List Char) :
    plainText s = plainText t ↔ words (s.filter (· ≠ '*')) = words (t.filter (· ≠ '*')) := by
  constructor
  · intro h
    have hwords := congrArg words h
    unfold plainText at hwords
    rwa [words_collapse, words_collapse] at hwords
  · exact fun h => congrArg [' '].intercalate h

/-- Plain text has no asterisks. -/
theorem filter_plainText (s : List Char) : (plainText s).filter (· ≠ '*') = plainText s := by
  rw [List.filter_eq_self]
  intro c hc
  rcases mem_intercalate hc with rfl | ⟨word, hword, hmem⟩
  · rfl
  · exact (List.mem_filter.1 (of_mem_fields (List.mem_filter.1 hword).1 hmem).1).2

theorem plainText_plainText (s : List Char) : plainText (plainText s) = plainText s := by
  rw [plainText_eq_plainText_iff, filter_plainText]
  exact words_collapse _

/-! ## Changes of style -/

/-- One change of style: an asterisk is put in or taken out, or blanks are replaced by others. -/
inductive Restyle : List Char → List Char → Prop
  | putIn (front back : List Char) : Restyle (front ++ back) (front ++ '*' :: back)
  | takeOut (front back : List Char) : Restyle (front ++ '*' :: back) (front ++ back)
  | respace (front back : List Char) {gap gap' : List Char} (hne : gap ≠ []) (hne' : gap' ≠ [])
      (hgap : ∀ c ∈ gap, isBlank c = true) (hgap' : ∀ c ∈ gap', isBlank c = true) :
      Restyle (front ++ (gap ++ back)) (front ++ (gap' ++ back))

/-- The texts are the same after any number of changes of style. -/
def Restyled : List Char → List Char → Prop := Relation.ReflTransGen Restyle

theorem plainWords_of_restyle {s t : List Char} (h : Restyle s t) : plainWords t = plainWords s := by
  have hasterisk (front back : List Char) : plainWords (front ++ '*' :: back) = plainWords (front ++ back) := by
    unfold plainWords
    rw [List.filter_append, List.filter_append, List.filter_cons_of_neg (by simp)]
  cases h with
  | putIn front back => exact hasterisk front back
  | takeOut front back => exact (hasterisk front back).symm
  | respace front back hne hne' hgap hgap' =>
    rw [cutsAtBlanks_plainWords.append_gap hgap' front hne' back,
      cutsAtBlanks_plainWords.append_gap hgap front hne back]

theorem Restyled.plainText_eq {s t : List Char} (h : Restyled s t) : plainText t = plainText s := by
  induction h with
  | refl => rfl
  | tail _ hstep ih => rw [Document.plainText_eq, plainWords_of_restyle hstep, ← Document.plainText_eq, ih]

/-- The blocks are the same, but for the style of the subject that a title gives or of the clause of a requirement. -/
inductive Document.Block.SameButStyle : Block → Block → Prop
  | title (range place : Range) (others : List Phrase) {text text' : List Char} (h : Restyled text text') :
    SameButStyle (.title range (⟨text, place⟩ :: others)) (.title range (⟨text', place⟩ :: others))
  | requirement (range place : Range) (id : Phrase) {text text' : List Char} (h : Restyled text text') :
    SameButStyle (.requirement range id (some ⟨text, place⟩)) (.requirement range id (some ⟨text', place⟩))
  | same (block : Block) : SameButStyle block block

/-! ## Findings -/

/-- What kind of finding it is and where it stands. -/
def Finding.site (f : Finding) : Category × Range := (f.category, f.range)

namespace Extraction

section Before

variable {before before' : List Block} (h : List.Forall₂ Block.SameButStyle before before')

include h

/-- The subject so far is the same but for its style. -/
theorem map_plainText_subject :
    (before'.findSome? subjectOf?).map plainText = (before.findSome? subjectOf?).map plainText := by
  have hblock {block block' : Block} (h : block.SameButStyle block') :
      (subjectOf? block').map plainText = (subjectOf? block).map plainText := by
    cases h with
    | title range place others h => exact congrArg some h.plainText_eq
    | requirement range place id h => rfl
    | same => rfl
  induction h with
  | nil => rfl
  | @cons block block' rest rest' hfirst _ ih =>
    have hsubject := hblock hfirst
    rw [List.findSome?_cons, List.findSome?_cons]
    cases hold : subjectOf? block with
    | none =>
      rw [hold, Option.map_none, Option.map_eq_none_iff] at hsubject
      rw [hsubject]
      exact ih
    | some s =>
      rw [hold, Option.map_some] at hsubject
      obtain ⟨s', hnew, hplain⟩ := Option.map_eq_some_iff.1 hsubject
      rw [hnew]
      exact congrArg some hplain

/-- A link may stand behind the one just where it may stand behind the other. -/
theorem any_carriesLinks_getLast? :
    before'.getLast?.any Block.carriesLinks = before.getLast?.any Block.carriesLinks := by
  have hmap : before'.map Block.carriesLinks = before.map Block.carriesLinks := by
    induction h with
    | nil => rfl
    | cons hfirst _ ih =>
      rw [List.map_cons, List.map_cons, ih]
      cases hfirst with
      | title range place others h => rfl
      | requirement range place id h => rfl
      | same => rfl
  have hlast (blocks : List Block) : blocks.getLast?.any Block.carriesLinks =
      (blocks.map Block.carriesLinks).getLast?.any id := by
    rw [List.getLast?_map, Option.any_map]
    rfl
  rw [hlast, hlast, hmap]

end Before

theorem site_mismatch {subject subject' : Option (List Char)} {clause clause' : Option Phrase}
    (hsubject : subject'.map plainText = subject.map plainText)
    (hclause : clause'.map (fun c => (plainText c.text, c.range)) = clause.map fun c => (plainText c.text, c.range)) :
    (mismatch subject' clause').map Finding.site = (mismatch subject clause).map Finding.site := by
  have hsites (s : List Char) (c : Phrase) : (mismatch (some s) (some c)).map Finding.site =
      if (plainText s).isSuffixOf (plainText c.text) then [] else [(.subjectMismatch, c.range)] :=
    apply_ite (List.map Finding.site) _ _ _
  cases subject with
  | none =>
    rw [Option.map_none, Option.map_eq_none_iff] at hsubject
    rw [hsubject]
    rfl
  | some s =>
    obtain ⟨s', rfl, hplain⟩ := Option.map_eq_some_iff.1 hsubject
    cases clause with
    | none =>
      rw [Option.map_none, Option.map_eq_none_iff] at hclause
      rw [hclause]
      rfl
    | some c =>
      obtain ⟨c', rfl, hsame⟩ := Option.map_eq_some_iff.1 hclause
      obtain ⟨htext, hrange⟩ := Prod.mk.inj hsame
      rw [hsites, hsites, hplain, htext, hrange]

/-- What is found at two blocks that are the same but for their style. -/
theorem site_findingsAt {before before' : List Block} (h : List.Forall₂ Block.SameButStyle before before')
    {block block' : Block} (hblock : block.SameButStyle block') :
    (findingsAt before' block').map Finding.site = (findingsAt before block).map Finding.site := by
  cases hblock with
  | title range place others htext => rfl
  | requirement range place id htext =>
    refine site_mismatch (map_plainText_subject h) ?_
    rw [Option.map_some, Option.map_some, htext.plainText_eq]
  | same =>
    cases block with
    | title range phrases => rfl
    | heading level range phrases => rfl
    | sentence range => rfl
    | requirement range id clause => exact site_mismatch (map_plainText_subject h) rfl
    | list range items =>
      have hitems := itemFindings_eq before [] items
      have hitems' := itemFindings_eq before' [] items
      rw [any_carriesLinks_getLast? h, hitems] at hitems'
      exact congrArg (List.map Finding.site) hitems'.symm

/-- What is found in a document comes in groups: one for each block, behind the faults and in front of what is found at
the end. -/
structure FindsInGroups (uri : String) (document : Document) (remarkUri : Option String)
    (groups : List (List Finding)) : Prop where
  finds : List.Forall₂ (fun e group => Finds (e.1.findSome? subjectOf?) e.1 e.2 group)
    (withEarlier document.blocks) groups
  findings_eq : (ofDocument uri document remarkUri).findings =
    document.faults.map (·.toFinding remarkUri) ++ groups.flatten ++ closingFindings document.blocks

theorem findsInGroups_findingsAt (uri : String) (document : Document) (remarkUri : Option String) :
    FindsInGroups uri document remarkUri ((withEarlier document.blocks).map fun e => findingsAt e.1 e.2) := by
  constructor
  · rw [List.forall₂_map_right_iff, List.forall₂_same]
    exact fun e _ => finds_findingsAt_of_subject fun _ _ _ _ => rfl
  · rw [findings_ofDocument, ← List.flatMap_def, List.append_assoc]

/-- Texts have the same plain text just if they have the same words without their asterisks, and plain text is its own
plain text.  So it makes no difference to what is found at a block how the subject of the document and the clauses of
its requirements are emphasised and spaced.  A requirement that is found to be about something else than the subject is
still found to be so, at the same place, and no other one is. -/
theorem findings_ignore_style :
    (∀ s t : List Char, plainText s = plainText t ↔ words (s.filter (· ≠ '*')) = words (t.filter (· ≠ '*'))) ∧
      (∀ s : List Char, plainText (plainText s) = plainText s) ∧
      ∀ (uri : String) (remarkUri : Option String) (document document' : Document),
        List.Forall₂ Block.SameButStyle document.blocks document'.blocks →
          ∃ groups groups', FindsInGroups uri document remarkUri groups ∧
            FindsInGroups uri document' remarkUri groups' ∧
            List.Forall₂ (fun group group' => group'.map Finding.site = group.map Finding.site) groups groups' := by
  refine ⟨plainText_eq_plainText_iff, plainText_plainText, fun uri remarkUri document document' h => ?_⟩
  refine ⟨_, _, findsInGroups_findingsAt uri document remarkUri, findsInGroups_findingsAt uri document' remarkUri, ?_⟩
  rw [List.forall₂_map_left_iff, List.forall₂_map_right_iff]
  exact (forall₂_withEarlier h).imp fun e e' hboth => site_findingsAt hboth.1 hboth.2

/-- An asterisk in the subject and another blank in the clause change the words of the finding alone. -/
theorem findings_ignore_style_of_client :
    let title (subject : String) : Block := .title (.onLine 0 2 10) [⟨subject.toList, .onLine 0 3 9⟩]
    let requirement (clause : String) : Block :=
      .requirement (.onLine 2 0 30) ⟨['A'], .onLine 2 2 3⟩ (some ⟨clause.toList, .onLine 2 5 18⟩)
    let document : Document := ⟨[title "server", requirement " The client "], []⟩
    let document' : Document := ⟨[title "ser*ver", requirement " The\u3000\tclient "], []⟩
    List.Forall₂ Block.SameButStyle document.blocks document'.blocks ∧
      (∃ groups groups', FindsInGroups "a.md" document none groups ∧ FindsInGroups "a.md" document' none groups' ∧
        List.Forall₂ (fun group group' => group'.map Finding.site = group.map Finding.site) groups groups') ∧
      (ofDocument "a.md" document none).findings = [.subjectMismatch "server" (.onLine 2 5 18)] ∧
      (ofDocument "a.md" document' none).findings = [.subjectMismatch "ser*ver" (.onLine 2 5 18)] := by
  intro title requirement document document'
  have hsubject : Restyled "server".toList "ser*ver".toList :=
    .single (.putIn "ser".toList "ver".toList)
  have hclause : Restyled " The client ".toList " The\u3000\tclient ".toList :=
    .single (.respace " The".toList "client ".toList (List.cons_ne_nil ' ' []) (List.cons_ne_nil '\u3000' ['\t'])
      (List.forall_mem_singleton.2 rfl) (List.forall_mem_cons.2 ⟨rfl, List.forall_mem_singleton.2 rfl⟩))
  have hsame : List.Forall₂ Block.SameButStyle document.blocks document'.blocks :=
    .cons (.title _ _ [] hsubject) (.cons (.requirement _ _ _ hclause) .nil)
  exact ⟨hsame, findings_ignore_style.2.2 "a.md" none document document' hsame, by decide +kernel, by decide +kernel⟩

end Extraction

end Traceability
