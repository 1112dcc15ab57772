import Traceability.Identifier
import Traceability.Proofs.Text.Fields
set_option autoImplicit false

/-!
# Characters of identifiers

An identifier is made of identifier characters, and none of these is a blank: the blanks are few, and none of them is a
letter or a number of any script.
-/

namespace Traceability

open Text

namespace Text

/-- The code points of all blanks. -/
def blankCodes : List Nat :=
  [0x9, 0xa, 0xb, 0xc, 0xd, 0x20, 0x85, 0xa0, 0x1680, 0x2000, 0x2001, 0x2002, 0x2003, 0x2004, 0x2005, 0x2006, 0x2007,
    0x2008, 0x2009, 0x200a, 0x2028, 0x2029, 0x202f, 0x205f, 0x3000]

theorem toNat_mem_blankCodes {c : Char} (h : isBlank c = true) : c.toNat ∈ blankCodes := by
  simp only [isBlank, Bool.or_eq_true, Bool.and_eq_true, decide_eq_true_iff, beq_iff_eq] at h
  simp only [blankCodes, List.mem_cons, List.not_mem_nil, or_false]
  omega

theorem isAlphanumeric_eq_false_of_isBlank {c : Char} (h : isBlank c = true) : isAlphanumeric c = false := by
  have hcodes : ∀ n ∈ blankCodes, coveredBy n alphanumericRanges = false := by decide +kernel
  exact hcodes c.toNat (toNat_mem_blankCodes h)

end Text

theorem isIdentifierChar_eq_false_of_isBlank {c : Char} (h : isBlank c = true) : isIdentifierChar c = false := by
  have hunderscore : c ≠ '_' := by
    rintro rfl
    exact absurd h (by decide)
  have hdot : c ≠ '.' := by
    rintro rfl
    exact absurd h (by decide)
  simp [isIdentifierChar, isSegmentChar, isAlphanumeric_eq_false_of_isBlank h, hunderscore, hdot]

theorem isBlank_eq_false_of_isIdentifierChar {c : Char} (h : isIdentifierChar c = true) : isBlank c = false := by
  cases hblank : isBlank c with
  | false => rfl
  | true => exact absurd h (by rw [isIdentifierChar_eq_false_of_isBlank hblank]; exact Bool.false_ne_true)

theorem isIdentifierChar_of_mem {s : List Char} (h : isIdentifier s = true) {c : Char} (hc : c ∈ s) :
    isIdentifierChar c = true := by
  rcases exists_mem_fields (p := (· == '.')) hc with hdot | ⟨segment, hsegment, hc⟩
  · simp [isIdentifierChar, hdot]
  · have hall := List.all_eq_true.1 h segment hsegment
    rw [Bool.and_eq_true] at hall
    exact isIdentifierChar_of_isSegmentChar (List.all_eq_true.1 hall.2 c hc)

theorem ne_asterisk_of_isIdentifier {s : List Char} (h : isIdentifier s = true) : ∀ c ∈ s, c ≠ '*' := by
  rintro c hc rfl
  exact absurd (isIdentifierChar_of_mem h hc) (by decide)

theorem isBlank_eq_false_of_isIdentifier {s : List Char} (h : isIdentifier s = true) : ∀ c ∈ s, isBlank c = false :=
  fun _ hc => isBlank_eq_false_of_isIdentifierChar (isIdentifierChar_of_mem h hc)

theorem ne_nil_of_isIdentifier {s : List Char} (h : isIdentifier s = true) : s ≠ [] := by
  rintro rfl
  cases h

theorem nil_not_mem_fields_of_isIdentifier {s : List Char} (h : isIdentifier s = true) : [] ∉ fields (· == '.') s := by
  intro hnil
  have hsegment := List.all_eq_true.1 h [] hnil
  cases hsegment

/-- An identifier neither begins nor ends with a dot. -/
theorem ne_dot_of_isIdentifier {s : List Char} (h : isIdentifier s = true) :
    s.head? ≠ some '.' ∧ s.getLast? ≠ some '.' := by
  have hdot : ('.' == '.') = true := rfl
  refine ⟨fun hhead => ?_, fun hlast => ?_⟩
  · obtain ⟨rest, rfl⟩ := List.head?_eq_some_iff.1 hhead
    refine nil_not_mem_fields_of_isIdentifier h ?_
    rw [fields_cons_of_pos (p := (· == '.')) hdot]
    exact List.mem_cons_self
  · obtain ⟨front, rfl⟩ := List.getLast?_eq_some_iff.1 hlast
    refine nil_not_mem_fields_of_isIdentifier h ?_
    rw [fields_append_separator (p := (· == '.')) front hdot]
    exact List.mem_append_right _ List.mem_cons_self

/-- An identifier begins with no blank. -/
theorem startsInked_of_isIdentifier {s : List Char} (h : isIdentifier s = true) : startsInked s = true := by
  cases s with
  | nil => cases h
  | cons c rest =>
    have hc := isBlank_eq_false_of_isIdentifierChar (isIdentifierChar_of_mem h List.mem_cons_self)
    simp only [startsInked, hc, Bool.not_false]

end Traceability
