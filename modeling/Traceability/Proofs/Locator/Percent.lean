import Traceability.Locator.Percent
set_option autoImplicit false

/-!
# What percent-encoding writes

An encoded text consists of percent signs, hexadecimal digits and those characters of the text that need no
encoding.  So it holds no control and no reserved character, and encoding it again with fewer reserved characters
changes nothing.  Decoding gives back the bytes of the text, so no two texts are encoded alike.
-/

namespace Traceability.Locator

/-- The characters that encode bytes. -/
def encodingChars : List Char := '%' :: (List.range 16).map hexDigit

theorem mem_encodingChars_of_mem_encodeByte {b : UInt8} {c : Char} (h : c ∈ encodeByte b) : c ∈ encodingChars := by
  have hdigit : ∀ n, n < 16 → hexDigit n ∈ encodingChars := by
    intro n hn
    exact List.mem_cons_of_mem _ (List.mem_map_of_mem (List.mem_range.2 hn))
  have hb := b.toNat_lt
  unfold encodeByte at h
  rcases List.mem_cons.1 h with rfl | h
  · exact List.mem_cons_self
  · rcases List.mem_cons.1 h with rfl | h
    · exact hdigit _ (by omega)
    · rw [List.mem_singleton] at h
      subst h
      exact hdigit _ (by omega)

theorem percentEncode_cons (reserved : List Char) (c : Char) (s : List Char) :
    percentEncode reserved (c :: s) =
      (if isControl c || reserved.contains c then (String.utf8EncodeChar c).flatMap encodeByte else [c]) ++
        percentEncode reserved s := by
  unfold percentEncode
  rw [List.flatMap_cons]

theorem mem_percentEncode {reserved s : List Char} {c : Char} (h : c ∈ percentEncode reserved s) :
    c ∈ encodingChars ∨ (isControl c = false ∧ c ∉ reserved) := by
  unfold percentEncode at h
  obtain ⟨original, _, hc⟩ := List.mem_flatMap.1 h
  split at hc
  · obtain ⟨b, _, hb⟩ := List.mem_flatMap.1 hc
    exact .inl (mem_encodingChars_of_mem_encodeByte hb)
  · next hkept =>
    rw [List.mem_singleton] at hc
    subst hc
    rw [Bool.or_eq_true, not_or, Bool.not_eq_true] at hkept
    refine .inr ⟨hkept.1, ?_⟩
    intro hreserved
    exact hkept.2 (List.contains_iff_mem.2 hreserved)

/-- A text without controls and reserved characters is its own encoding. -/
theorem percentEncode_eq_self {reserved s : List Char} (h : ∀ c ∈ s, isControl c = false ∧ c ∉ reserved) :
    percentEncode reserved s = s := by
  induction s with
  | nil => rfl
  | cons c rest ih =>
    obtain ⟨⟨hcontrol, hreserved⟩, hrest⟩ := List.forall_mem_cons.1 h
    have hkept : (isControl c || reserved.contains c) = false := by
      rw [hcontrol, Bool.false_or, Bool.eq_false_iff]
      exact mt List.contains_iff_mem.1 hreserved
    rw [percentEncode_cons, hkept, ih hrest]
    rfl

/-- What encodes bytes is never encoded itself, unless it is reserved. -/
theorem percentEncode_percentEncode {outer inner : List Char} (hsub : outer.all inner.contains = true)
    (hfree : encodingChars.all (fun c => !outer.contains c) = true) (s : List Char) :
    percentEncode outer (percentEncode inner s) = percentEncode inner s := by
  apply percentEncode_eq_self
  intro c hc
  rcases mem_percentEncode hc with hencoding | ⟨hcontrol, hreserved⟩
  · have hcontrols : encodingChars.all (fun c => !isControl c) = true := by decide
    have hcontrol := List.all_eq_true.1 hcontrols c hencoding
    have houter := List.all_eq_true.1 hfree c hencoding
    rw [Bool.not_eq_true'] at hcontrol houter
    refine ⟨hcontrol, ?_⟩
    rw [← List.contains_iff_mem, houter]
    exact Bool.false_ne_true
  · refine ⟨hcontrol, ?_⟩
    intro houter
    exact hreserved (List.contains_iff_mem.1 (List.all_eq_true.1 hsub c houter))

/-- The bytes of a character outside ASCII are outside ASCII. -/
theorem toNat_of_mem_utf8EncodeChar {c : Char} {b : UInt8} (h : b ∈ String.utf8EncodeChar c) :
    0x80 ≤ b.toNat ∨ b.toNat = c.toNat := by
  have hc : c.toNat = c.val.toNat := rfl
  unfold String.utf8EncodeChar at h
  simp only at h
  split at h
  · rw [List.mem_singleton] at h
    subst h
    right
    rw [UInt8.toNat_ofNat']
    omega
  · left
    split at h
    · simp only [List.mem_cons, List.not_mem_nil, or_false] at h
      rcases h with rfl | rfl <;> (rw [UInt8.toNat_ofNat']; omega)
    · split at h
      · simp only [List.mem_cons, List.not_mem_nil, or_false] at h
        rcases h with rfl | rfl | rfl <;> (rw [UInt8.toNat_ofNat']; omega)
      · simp only [List.mem_cons, List.not_mem_nil, or_false] at h
        rcases h with rfl | rfl | rfl | rfl <;> (rw [UInt8.toNat_ofNat']; omega)

/-- An encoded character begins with a percent sign. -/
theorem exists_encoded_eq_cons (c : Char) : ∃ digits, (String.utf8EncodeChar c).flatMap encodeByte = '%' :: digits := by
  cases hbytes : String.utf8EncodeChar c with
  | nil => exact absurd hbytes String.utf8EncodeChar_ne_nil
  | cons b bytes => exact ⟨_, rfl⟩

theorem percentEncode_ne_nil {reserved s : List Char} (h : s ≠ []) : percentEncode reserved s ≠ [] := by
  cases s with
  | nil => exact absurd rfl h
  | cons c rest =>
    obtain ⟨digits, hdigits⟩ := exists_encoded_eq_cons c
    rw [percentEncode_cons]
    split
    · rw [hdigits]
      exact List.cons_ne_nil _ _
    · exact List.cons_ne_nil _ _

/-- A text whose encoding has no percent sign needs no encoding. -/
theorem eq_percentEncode_of_percent_not_mem {reserved s : List Char} (h : '%' ∉ percentEncode reserved s) :
    s = percentEncode reserved s := by
  induction s with
  | nil => rfl
  | cons c rest ih =>
    obtain ⟨digits, hdigits⟩ := exists_encoded_eq_cons c
    rw [percentEncode_cons] at h ⊢
    split at h
    · rw [hdigits] at h
      exact absurd List.mem_cons_self h
    · next hkept =>
      rw [List.mem_append, not_or] at h
      rw [if_neg hkept, List.singleton_append, ← ih h.2]

/-! ## Decoding -/

theorem percentDecode_encodeByte_append (b : UInt8) (rest : List Char) :
    percentDecode (encodeByte b ++ rest) = b :: percentDecode rest := by
  have hvalue : ∀ n < 16, Text.digitValue? 16 (hexDigit n) = some n := by decide
  have hb := b.toNat_lt
  have hhigh : b.toNat / 16 < 16 := by omega
  have hlow : b.toNat % 16 < 16 := Nat.mod_lt _ (by decide)
  have hbyte : UInt8.ofNat (16 * (b.toNat / 16) + b.toNat % 16) = b := by
    rw [Nat.div_add_mod, UInt8.ofNat_toNat]
  unfold encodeByte
  simp only [List.cons_append, List.nil_append]
  rw [percentDecode, hvalue _ hhigh, hvalue _ hlow]
  simp only [hbyte]

theorem percentDecode_cons_of_ne {c : Char} (hc : c ≠ '%') (rest : List Char) :
    percentDecode (c :: rest) = String.utf8EncodeChar c ++ percentDecode rest := by
  rw [percentDecode]
  intro _ _ _ hpercent
  exact absurd hpercent hc

/-- Decoding undoes encoding, if percent signs are encoded. -/
theorem percentDecode_percentEncode {reserved : List Char} (hpercent : '%' ∈ reserved) (s : List Char) :
    percentDecode (percentEncode reserved s) = s.flatMap String.utf8EncodeChar := by
  have hbytes : ∀ (bytes : List UInt8) (rest : List Char),
      percentDecode (bytes.flatMap encodeByte ++ rest) = bytes ++ percentDecode rest := by
    intro bytes rest
    induction bytes with
    | nil => rfl
    | cons b bytes ih =>
      rw [List.flatMap_cons, List.append_assoc, percentDecode_encodeByte_append, ih, List.cons_append]
  induction s with
  | nil => rfl
  | cons c rest ih =>
    rw [percentEncode_cons, List.flatMap_cons]
    split
    · rw [hbytes, ih]
    · next hkept =>
      have hc : c ≠ '%' := by
        rintro rfl
        exact hkept (by rw [List.contains_iff_mem.2 hpercent, Bool.or_true])
      rw [List.singleton_append, percentDecode_cons_of_ne hc, ih]

theorem toByteArray_ofList (s : List Char) :
    (String.ofList s).toByteArray = ⟨(s.flatMap String.utf8EncodeChar).toArray⟩ := by
  rw [String.toByteArray_ofList]
  unfold List.utf8Encode
  apply ByteArray.ext
  simp

/-- The bytes of a text are read as this text. -/
theorem fromUTF8?_flatMap_utf8EncodeChar (s : List Char) :
    String.fromUTF8? ⟨(s.flatMap String.utf8EncodeChar).toArray⟩ = some (String.ofList s) := by
  rw [← toByteArray_ofList]
  unfold String.fromUTF8?
  rw [dif_pos (String.ofList s).isValidUTF8]
  rfl

/-- What is read as a text are the bytes of this text. -/
theorem eq_flatMap_of_fromUTF8?_eq_some {bytes : List UInt8} {text : String}
    (h : String.fromUTF8? ⟨bytes.toArray⟩ = some text) : bytes = text.toList.flatMap String.utf8EncodeChar := by
  unfold String.fromUTF8? at h
  split at h
  · have hbytes : (⟨bytes.toArray⟩ : ByteArray) = (String.ofList text.toList).toByteArray := by
      rw [← Option.some.inj h, String.ofList_toList]
      rfl
    rw [toByteArray_ofList] at hbytes
    exact Array.toList_inj.2 (congrArg ByteArray.data hbytes)
  · cases h

/-- No two texts have the same bytes. -/
theorem flatMap_utf8EncodeChar_injective {s t : List Char}
    (h : s.flatMap String.utf8EncodeChar = t.flatMap String.utf8EncodeChar) : s = t := by
  have htext := fromUTF8?_flatMap_utf8EncodeChar s
  rw [h, fromUTF8?_flatMap_utf8EncodeChar, Option.some_inj, String.ofList_inj] at htext
  exact htext.symm

theorem percentEncode_injective {reserved s t : List Char} (hpercent : '%' ∈ reserved)
    (h : percentEncode reserved s = percentEncode reserved t) : s = t := by
  have hbytes := congrArg percentDecode h
  rw [percentDecode_percentEncode hpercent, percentDecode_percentEncode hpercent] at hbytes
  exact flatMap_utf8EncodeChar_injective hbytes

end Traceability.Locator
