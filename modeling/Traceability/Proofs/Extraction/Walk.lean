import Mathlib.Data.List.Forall2
import Mathlib.Data.List.Infix
import Traceability.Extraction
set_option autoImplicit false

/-!
# What the walk finds at a block

The walk over a document carries along the subject so far and whether a link may stand where it is.  Both can be told
from what stands in front: the subject from the blocks before, the place of a link from the block directly before its
list and from the items before it in the list.  So what the walk finds is, block by block, a matter of the blocks
before, and nothing has to be carried along.
-/

namespace Traceability

open Text Document

/-! ## Elements and what stands before them -/

section Earlier

variable {α : Type}

/-- The elements of a list, each with all that stands before it. -/
def withEarlier (xs : List α) : List (List α × α) := xs.inits.zip xs

theorem withEarlier_cons (x : α) (rest : List α) :
    withEarlier (x :: rest) = ([], x) :: (withEarlier rest).map fun e => (x :: e.1, e.2) := by
  unfold withEarlier
  rw [List.inits_cons, List.zip_cons_cons, List.zip_map_left]
  rfl

theorem mem_withEarlier_iff {xs earlier : List α} {x : α} :
    (earlier, x) ∈ withEarlier xs ↔ ∃ later, xs = earlier ++ x :: later := by
  induction xs generalizing earlier with
  | nil => simp [withEarlier]
  | cons y rest ih =>
    rw [withEarlier_cons, List.mem_cons, List.mem_map]
    constructor
    · rintro (h | ⟨⟨earlier', x'⟩, hmem, h⟩)
      · obtain ⟨rfl, rfl⟩ := Prod.mk.inj h
        exact ⟨rest, rfl⟩
      · obtain ⟨rfl, rfl⟩ := Prod.mk.inj h
        obtain ⟨later, rfl⟩ := ih.1 hmem
        exact ⟨later, rfl⟩
    · rintro ⟨later, h⟩
      cases earlier with
      | nil =>
        obtain ⟨rfl, rfl⟩ := List.cons.inj h
        exact .inl rfl
      | cons z others =>
        obtain ⟨rfl, rfl⟩ := List.cons.inj h
        exact .inr ⟨(others, x), ih.2 ⟨later, rfl⟩, rfl⟩

theorem map_snd_withEarlier (xs : List α) : (withEarlier xs).map Prod.snd = xs := by
  induction xs with
  | nil => rfl
  | cons x rest ih =>
    rw [withEarlier_cons, List.map_cons, List.map_map]
    exact congrArg (x :: ·) ih

/-- What is made of each element without regard to those before it. -/
theorem flatMap_snd_withEarlier {β : Type} (f : α → List β) (xs : List α) :
    (withEarlier xs).flatMap (fun e => f e.2) = xs.flatMap f := by
  conv_rhs => rw [← map_snd_withEarlier xs, List.flatMap_map]

theorem forall₂_withEarlier {R : α → α → Prop} {xs ys : List α} (h : List.Forall₂ R xs ys) :
    List.Forall₂ (fun e e' => List.Forall₂ R e.1 e'.1 ∧ R e.2 e'.2) (withEarlier xs) (withEarlier ys) := by
  induction h with
  | nil => exact .nil
  | @cons x y xs ys hfirst _ ih =>
    rw [withEarlier_cons, withEarlier_cons]
    refine .cons ⟨.nil, hfirst⟩ ?_
    rw [List.forall₂_map_left_iff, List.forall₂_map_right_iff]
    exact ih.imp fun e e' hlater => ⟨.cons hfirst hlater.1, hlater.2⟩

end Earlier

/-! ## Links and where they stand -/

namespace Document

/-- Whether a list that directly follows the block may hold links. -/
def Block.carriesLinks : Block → Bool
  | title _ _ => true
  | heading _ _ _ => true
  | sentence _ => false
  | requirement _ _ _ => true
  | list _ _ => false

/-- Whether the item is no link. -/
def ListItem.isPlain : ListItem → Bool
  | text _ => true
  | link _ _ => false

@[simp] theorem ListItem.isPlain_text (range : Range) : (text range).isPlain = true := rfl

@[simp] theorem ListItem.isPlain_link (range : Range) (targets : Targets) : (link range targets).isPlain = false := rfl

end Document

/-- A link of a document, with the blocks before its list and the items before it in the list. -/
structure LinkSite where
  before : List Block
  earlier : List ListItem
  range : Range
  targets : Targets
  deriving DecidableEq

namespace LinkSite

/-- Whether the link belongs to something: the block directly before its list is a title, a heading or a requirement,
and no plain item stands between. -/
def isPlaced (s : LinkSite) : Bool :=
  s.before.getLast?.any Block.carriesLinks && s.earlier.all fun item => !item.isPlain

/-- The claims of the link; all of them stand at its item. -/
def references (uri : String) (s : LinkSite) : List Reference :=
  s.targets.ids.map fun id => ⟨String.ofList id, uri, s.range⟩

/-- The link that an item is. -/
def ofItem? (before : List Block) (earlier : List ListItem) : ListItem → Option LinkSite
  | .text _ => none
  | .link range targets => some ⟨before, earlier, range, targets⟩

@[simp] theorem ofItem?_text (before : List Block) (earlier : List ListItem) (range : Range) :
    ofItem? before earlier (.text range) = none := rfl

@[simp] theorem ofItem?_link (before : List Block) (earlier : List ListItem) (range : Range) (targets : Targets) :
    ofItem? before earlier (.link range targets) = some ⟨before, earlier, range, targets⟩ := rfl

/-- The links of a block. -/
def ofBlock (before : List Block) : Block → List LinkSite
  | .list _ items => (withEarlier items).filterMap fun e => ofItem? before e.1 e.2
  | _ => []

end LinkSite

/-- All links of a document, in order. -/
def Document.links (document : Document) : List LinkSite :=
  (withEarlier document.blocks).flatMap fun e => LinkSite.ofBlock e.1 e.2

namespace Extraction

/-! ## Findings and what stands before them -/

/-- The findings for those of some links that belong to nothing. -/
def misplacements (sites : List LinkSite) : List Finding :=
  (sites.filter fun s => !s.isPlaced).map fun s => .linkPlacement s.range

/-- What is found at a block, given the blocks before it. -/
def findingsAt (before : List Block) (block : Block) : List Finding :=
  match block with
  | .title _ _ => []
  | .heading _ range phrases => if 1 < phrases.length then [.multipleInformalIdentifiers range] else []
  | .sentence _ => []
  | .requirement _ _ clause => mismatch (before.findSome? subjectOf?) clause
  | .list _ _ => misplacements (LinkSite.ofBlock before block)

/-- What is found at the end of a document with these blocks. -/
def closingFindings (blocks : List Block) : List Finding :=
  if (blocks.findSome? subjectOf?).isNone then [.missingSubject] else []

theorem misplacements_cons (s : LinkSite) (rest : List LinkSite) :
    misplacements (s :: rest) =
      if s.isPlaced then misplacements rest else .linkPlacement s.range :: misplacements rest := by
  unfold misplacements
  cases hplaced : s.isPlaced with
  | true => rw [List.filter_cons_of_neg (by simp [hplaced]), if_pos rfl]
  | false => rw [List.filter_cons_of_pos (by simp [hplaced]), if_neg Bool.false_ne_true, List.map_cons]

theorem itemFindings_text (attached : Bool) (range : Range) (rest : List ListItem) :
    itemFindings attached (.text range :: rest) = itemFindings false rest := by
  cases attached with
  | true => rfl
  | false => rfl

theorem itemFindings_link (attached : Bool) (range : Range) (targets : Targets) (rest : List ListItem) :
    itemFindings attached (.link range targets :: rest) =
      if attached then itemFindings attached rest else .linkPlacement range :: itemFindings attached rest := by
  cases attached with
  | true => rfl
  | false => rfl

/-- A link is found misplaced if it does not belong to something where it stands.  The items in `front` have been
walked already. -/
theorem itemFindings_eq (before : List Block) (front items : List ListItem) :
    itemFindings (before.getLast?.any Block.carriesLinks && front.all fun item => !item.isPlain) items =
      misplacements ((withEarlier items).filterMap fun e => LinkSite.ofItem? before (front ++ e.1) e.2) := by
  induction items generalizing front with
  | nil => rfl
  | cons item rest ih =>
    have hlater : ((withEarlier rest).map fun e => (item :: e.1, e.2)).filterMap
          (fun e => LinkSite.ofItem? before (front ++ e.1) e.2) =
        (withEarlier rest).filterMap fun e => LinkSite.ofItem? before (front ++ [item] ++ e.1) e.2 := by
      rw [List.filterMap_map]
      simp only [Function.comp_def, List.append_assoc, List.singleton_append]
    have hrest := ih (front ++ [item])
    rw [withEarlier_cons, List.filterMap_cons, hlater]
    cases item with
    | text range =>
      simp only [List.all_append, List.all_cons, ListItem.isPlain_text, Bool.not_true, Bool.false_and,
        Bool.and_false] at hrest
      rw [itemFindings_text, hrest]
      simp only [LinkSite.ofItem?_text]
    | link range targets =>
      simp only [List.all_append, List.all_cons, List.all_nil, ListItem.isPlain_link, Bool.not_false,
        Bool.and_true] at hrest
      simp only [LinkSite.ofItem?_link, List.append_nil]
      rw [itemFindings_link, misplacements_cons, hrest]
      rfl

/-- What the walk finds from some place on.  The blocks in `front` have been walked already. -/
theorem walk_eq (front blocks : List Block) :
    walk (front.findSome? subjectOf?) (front.getLast?.any Block.carriesLinks) blocks =
      (withEarlier blocks).flatMap (fun e => findingsAt (front ++ e.1) e.2) ++ closingFindings (front ++ blocks) := by
  induction blocks generalizing front with
  | nil =>
    rw [List.append_nil]
    rfl
  | cons block rest ih =>
    have hlater : ((withEarlier rest).map fun e => (block :: e.1, e.2)).flatMap
          (fun e => findingsAt (front ++ e.1) e.2) =
        (withEarlier rest).flatMap fun e => findingsAt (front ++ [block] ++ e.1) e.2 := by
      rw [List.flatMap_map]
      simp only [List.append_assoc, List.singleton_append]
    have hall : front ++ block :: rest = front ++ [block] ++ rest := by
      rw [List.append_assoc, List.singleton_append]
    have hrest := ih (front ++ [block])
    rw [List.getLast?_concat, List.findSome?_append] at hrest
    rw [withEarlier_cons, List.flatMap_cons, hlater, List.append_nil, List.append_assoc, hall, ← hrest]
    cases block with
    | title range phrases =>
      simp only [walk, List.findSome?_singleton, Option.orElse_eq_orElse, Option.orElse_eq_or]
      rfl
    | heading level range phrases =>
      simp only [walk, List.findSome?_cons, subjectOf?, List.findSome?_nil, Option.or_none]
      rfl
    | sentence range =>
      simp only [walk, List.findSome?_cons, subjectOf?, List.findSome?_nil, Option.or_none]
      rfl
    | requirement range id clause =>
      simp only [walk, List.findSome?_cons, subjectOf?, List.findSome?_nil, Option.or_none]
      rfl
    | list range items =>
      have hitems := itemFindings_eq front [] items
      rw [List.all_nil, Bool.and_true] at hitems
      simp only [walk, List.findSome?_cons, subjectOf?, List.findSome?_nil, Option.or_none, hitems]
      rfl

/-- The findings of a document: its faults, what is found at each of its blocks, and whether it has a subject. -/
theorem findings_ofDocument (uri : String) (document : Document) (remarkUri : Option String) :
    (ofDocument uri document remarkUri).findings =
      document.faults.map (·.toFinding remarkUri) ++
        ((withEarlier document.blocks).flatMap (fun e => findingsAt e.1 e.2) ++ closingFindings document.blocks) := by
  have hwalk : walk none false document.blocks = _ := walk_eq [] document.blocks
  exact congrArg (document.faults.map (·.toFinding remarkUri) ++ ·) hwalk

end Extraction

end Traceability
