import Mathlib.Data.List.Basic
import Traceability.Locator.Basic
import Traceability.Proofs.Locator.Percent
import Traceability.Proofs.Text.Fields
set_option autoImplicit false

/-!
# Paths as bytes

What a uri denotes are the bytes of a path, and these need not be text.  They have names all the same, between their
slashes, and files with any names have uris.  For bytes that are text, the names and the uri are those of the path that
is read from the text (`namesOfUri?_of_pathOfUri?`, `uriOfNames_nameBytes`).
-/

namespace Traceability

namespace Path

/-- The names in the bytes of a path: what stands between its slashes, unless it names nothing. -/
def namesOfBytes (bytes : List UInt8) : List (List UInt8) :=
  (Text.fields (· == 0x2f) bytes).filter fun name => !(name == [] || name == [0x2e])

/-- The names of a path, as bytes. -/
def nameBytes (p : Path) : List (List UInt8) := p.names.map fun name => name.toList.flatMap String.utf8EncodeChar

end Path

namespace Locator

/-- Encodes the bytes of controls, of characters outside ASCII and of the characters of `reserved`. -/
def percentEncodeBytes (reserved : List Char) (bytes : List UInt8) : List Char :=
  bytes.flatMap fun b =>
    let c := Char.ofNat b.toNat
    if isControl c || reserved.contains c then encodeByte b else [c]

/-- The uri of the file with some names. -/
def uriOfNames (names : List (List UInt8)) : String :=
  let segments :=
    match names with
    | [] => [[]]
    | names => names.map (percentEncodeBytes nameReserved)
  (Locator.mk fileScheme (some {}) (.segments segments) none none).uri

/-- The names of the path that a uri denotes. -/
def namesOfUri? (uri : String) : Option (List (List UInt8)) := (pathBytesOfUri? uri).map Path.namesOfBytes

/-! ## Bytes of characters -/

theorem toNat_ofNat_byte (b : UInt8) : (Char.ofNat b.toNat).toNat = b.toNat := by
  have hb := b.toNat_lt
  have hvalid : b.toNat.isValidChar := .inl (by omega)
  rw [Char.ofNat, dif_pos hvalid]
  rfl

theorem utf8EncodeChar_of_lt {c : Char} (h : c.toNat < 0x80) : String.utf8EncodeChar c = [UInt8.ofNat c.toNat] := by
  have hc : c.val.toNat ≤ 0x7f := Nat.le_of_lt_succ h
  unfold String.utf8EncodeChar
  simp only [hc, if_true]
  rfl

theorem ofNat_toNat_ofNat_of_lt {c : Char} (h : c.toNat < 0x80) : Char.ofNat (UInt8.ofNat c.toNat).toNat = c := by
  have hsmall : c.toNat < 2 ^ 8 := by omega
  rw [UInt8.toNat_ofNat_of_lt' hsmall, Char.ofNat_toNat]

/-- A byte of ASCII is a whole character. -/
theorem eq_of_mem_utf8EncodeChar {c : Char} {b : UInt8} (hb : b ∈ String.utf8EncodeChar c) (hascii : b.toNat < 0x80) :
    c = Char.ofNat b.toNat ∧ String.utf8EncodeChar c = [b] := by
  have hsame : b.toNat = c.toNat := (toNat_of_mem_utf8EncodeChar hb).resolve_left (by omega)
  rw [hsame] at hascii
  refine ⟨by rw [hsame, Char.ofNat_toNat], ?_⟩
  rw [utf8EncodeChar_of_lt hascii, ← hsame, UInt8.ofNat_toNat]

/-- So a text whose bytes end in a byte of ASCII ends in this character. -/
theorem exists_of_flatMap_eq_concat {s : List Char} {front : List UInt8} {b : UInt8} (hascii : b.toNat < 0x80)
    (h : s.flatMap String.utf8EncodeChar = front ++ [b]) :
    ∃ t, s = t ++ [Char.ofNat b.toNat] ∧ t.flatMap String.utf8EncodeChar = front := by
  rcases List.eq_nil_or_concat s with rfl | ⟨t, c, rfl⟩
  · exact absurd h.symm (List.append_ne_nil_of_right_ne_nil _ (List.cons_ne_nil _ _))
  · rw [List.concat_eq_append, List.flatMap_append, List.flatMap_singleton] at h
    have hb : b ∈ String.utf8EncodeChar c := by
      have hlast := congrArg List.getLast? h
      rw [List.getLast?_append, List.getLast?_eq_some_getLast String.utf8EncodeChar_ne_nil, Option.some_or,
        List.getLast?_concat] at hlast
      exact Option.some.inj hlast ▸ List.getLast_mem String.utf8EncodeChar_ne_nil
    obtain ⟨rfl, hc⟩ := eq_of_mem_utf8EncodeChar hb hascii
    rw [hc] at h
    exact ⟨t, List.concat_eq_append, List.append_cancel_right h⟩

/-! ## Drives -/

/-- More than two elements that end in two of which some text is a drive. -/
theorem endsInDrive_iff {α : Type} (f : α → Char) (xs : List α) :
    (2 < xs.length && isDrive ((xs.drop (xs.length - 2)).map f)) = true ↔
      ∃ front x y, front ≠ [] ∧ xs = front ++ [x, y] ∧ isDrive [f x, f y] = true := by
  rw [Bool.and_eq_true, decide_eq_true_iff]
  constructor
  · rintro ⟨hlong, hdrive⟩
    have hlength : (xs.drop (xs.length - 2)).length = 2 := by
      rw [List.length_drop]
      omega
    obtain ⟨x, y, hlast⟩ := List.length_eq_two.1 hlength
    have hsplit := List.take_append_drop (xs.length - 2) xs
    rw [hlast] at hdrive hsplit
    refine ⟨xs.take (xs.length - 2), x, y, ?_, hsplit.symm, hdrive⟩
    intro hnil
    have htaken := congrArg List.length hnil
    rw [List.length_take, List.length_nil] at htaken
    omega
  · rintro ⟨front, x, y, hne, rfl, hdrive⟩
    have hpositive := List.length_pos_iff.2 hne
    have hlength : (front ++ [x, y]).length = front.length + 2 := by simp
    refine ⟨by omega, ?_⟩
    rw [hlength, Nat.add_sub_cancel, List.drop_left]
    exact hdrive

theorem toNat_of_isAlpha {letter : Char} (h : letter.isAlpha = true) :
    65 ≤ letter.toNat ∧ letter.toNat ≤ 90 ∨ 97 ≤ letter.toNat ∧ letter.toNat ≤ 122 := by
  have hcases : (decide ('A'.val ≤ letter.val ∧ letter.val ≤ 'Z'.val) ||
      decide ('a'.val ≤ letter.val) && decide (letter.val ≤ 'z'.val)) = true := h
  simpa [UInt32.le_iff_toNat_le] using hcases

/-- A drive is written with a colon or a bar. -/
theorem exists_of_isDrive {segment : List Char} (h : isDrive segment = true) :
    ∃ letter mark, letter.isAlpha = true ∧ (mark = ':' ∨ mark = '|') ∧ segment = [letter, mark] := by
  unfold isDrive at h
  rw [Bool.and_eq_true, decide_eq_true_iff] at h
  obtain ⟨letter, mark, rfl⟩ := List.length_eq_two.1 h.1
  have hstart := h.2
  simp only [startsWithDrive, Bool.and_eq_true, Bool.or_eq_true, beq_iff_eq] at hstart
  exact ⟨letter, mark, hstart.1, hstart.2, rfl⟩

theorem lt_of_isDrive {x y : Char} (h : isDrive [x, y] = true) : x.toNat < 0x80 ∧ y.toNat < 0x80 := by
  obtain ⟨letter, mark, hletter, hmark, hsegment⟩ := exists_of_isDrive h
  obtain ⟨rfl, hrest⟩ := List.cons.inj hsegment
  obtain ⟨rfl, _⟩ := List.cons.inj hrest
  have hrange := toNat_of_isAlpha hletter
  refine ⟨by omega, ?_⟩
  rcases hmark with rfl | rfl
  · decide
  · decide

/-- The bytes of a text end in a drive just if the text does. -/
theorem endsInDrive_flatMap (s : List Char) :
    (2 < (s.flatMap String.utf8EncodeChar).length &&
        isDrive (((s.flatMap String.utf8EncodeChar).drop ((s.flatMap String.utf8EncodeChar).length - 2)).map
          fun b => Char.ofNat b.toNat)) =
      (2 < s.length && isDrive (s.drop (s.length - 2))) := by
  have hself : (2 < s.length && isDrive (s.drop (s.length - 2))) = true ↔
      ∃ front x y, front ≠ [] ∧ s = front ++ [x, y] ∧ isDrive [x, y] = true := by
    have hmapped := endsInDrive_iff id s
    rwa [List.map_id] at hmapped
  rw [Bool.eq_iff_iff, endsInDrive_iff, hself]
  constructor
  · rintro ⟨front, x, y, hne, hbytes, hdrive⟩
    obtain ⟨hx, hy⟩ := lt_of_isDrive hdrive
    rw [toNat_ofNat_byte] at hx hy
    have hconcat : s.flatMap String.utf8EncodeChar = front ++ [x] ++ [y] := by rw [hbytes, List.append_assoc]; rfl
    obtain ⟨t, rfl, ht⟩ := exists_of_flatMap_eq_concat hy hconcat
    obtain ⟨r, rfl, rfl⟩ := exists_of_flatMap_eq_concat hx ht
    refine ⟨r, Char.ofNat x.toNat, Char.ofNat y.toNat, ?_, by simp, hdrive⟩
    rintro rfl
    exact hne rfl
  · rintro ⟨front, x, y, hne, rfl, hdrive⟩
    obtain ⟨hx, hy⟩ := lt_of_isDrive hdrive
    refine ⟨front.flatMap String.utf8EncodeChar, UInt8.ofNat x.toNat, UInt8.ofNat y.toNat, ?_, ?_, ?_⟩
    · obtain ⟨c, rest, rfl⟩ := List.exists_cons_of_ne_nil hne
      rw [List.flatMap_cons]
      exact List.append_ne_nil_of_left_ne_nil String.utf8EncodeChar_ne_nil _
    · rw [List.flatMap_append, List.flatMap_cons, List.flatMap_singleton]
      exact congrArg _ (congrArg₂ _ (utf8EncodeChar_of_lt hx) (utf8EncodeChar_of_lt hy))
    · rw [ofNat_toNat_ofNat_of_lt hx, ofNat_toNat_ofNat_of_lt hy]
      exact hdrive

theorem closeDrive_flatMap (s : List Char) :
    closeDrive (s.flatMap String.utf8EncodeChar) =
      (if 2 < s.length && isDrive (s.drop (s.length - 2)) then s ++ ['/'] else s).flatMap String.utf8EncodeChar := by
  unfold closeDrive
  simp only [endsInDrive_flatMap]
  split
  · rw [List.flatMap_append]
    rfl
  · rfl

/-! ## Texts -/

theorem ofBytes?_flatMap (s : List Char) :
    Path.ofBytes? (s.flatMap String.utf8EncodeChar) = Path.ofText? (String.ofList s) := by
  unfold Path.ofBytes?
  rw [fromUTF8?_flatMap_utf8EncodeChar, Option.bind_some]

/-- Bytes that are read as a path are those of its text. -/
theorem exists_of_ofBytes?_eq_some {bytes : List UInt8} {p : Path} (h : Path.ofBytes? bytes = some p) :
    ∃ text : String, Path.ofText? text = some p ∧ bytes = text.toList.flatMap String.utf8EncodeChar := by
  obtain ⟨text, htext, hread⟩ := Option.bind_eq_some_iff.1 h
  exact ⟨text, hread, eq_flatMap_of_fromUTF8?_eq_some htext⟩

/-- The slashes of a text are where its bytes have slashes. -/
theorem fields_flatMap_utf8EncodeChar (s : List Char) :
    Text.fields (· == 0x2f) (s.flatMap String.utf8EncodeChar) =
      (Text.fields (· == '/') s).map (·.flatMap String.utf8EncodeChar) := by
  induction s with
  | nil => rfl
  | cons c rest ih =>
    rw [List.flatMap_cons]
    by_cases hc : c = '/'
    · subst hc
      have hslash : String.utf8EncodeChar '/' = [0x2f] := rfl
      rw [hslash, List.singleton_append, Text.fields_cons_of_pos rfl, Text.fields_cons_of_pos rfl, ih]
      rfl
    · obtain ⟨first, others, hrest⟩ := List.exists_cons_of_ne_nil (Text.fields_ne_nil (· == '/') rest)
      have hbytes : ∀ b ∈ String.utf8EncodeChar c, (b == 0x2f) = false := by
        intro b hb
        rw [beq_eq_false_iff_ne]
        rintro rfl
        exact hc (eq_of_mem_utf8EncodeChar hb (by decide)).1
      rw [hrest, List.map_cons] at ih
      rw [Text.fields_append_of_neg hbytes ih, Text.fields_cons_of_neg (p := (· == '/')) (beq_false_of_ne hc) hrest]
      rfl

/-! ## Names -/

theorem namesOfBytes_flatMap (s : List Char) :
    Path.namesOfBytes (s.flatMap String.utf8EncodeChar) =
      ((Path.cut (String.ofList s)).filter fun piece => !Path.isIdle piece).map fun name =>
        name.toList.flatMap String.utf8EncodeChar := by
  have hidle : ∀ field : List Char,
      (field.flatMap String.utf8EncodeChar == [] || field.flatMap String.utf8EncodeChar == [0x2e]) =
        Path.isIdle (String.ofList field) := by
    intro field
    have hsame : ∀ idle : List Char, (field.flatMap String.utf8EncodeChar == idle.flatMap String.utf8EncodeChar) =
        (String.ofList field == String.ofList idle) := by
      intro idle
      rw [Bool.eq_iff_iff, beq_iff_eq, beq_iff_eq, String.ofList_inj]
      exact ⟨flatMap_utf8EncodeChar_injective, congrArg _⟩
    exact congrArg₂ or (hsame []) (hsame ['.'])
  unfold Path.namesOfBytes Path.cut
  rw [fields_flatMap_utf8EncodeChar, String.toList_ofList, List.filter_map, List.filter_map, List.map_map]
  simp only [Function.comp_def, hidle, String.toList_ofList]

/-- A uri that denotes a path denotes its names. -/
theorem namesOfUri?_of_pathOfUri? {uri : String} {p : Path} (h : pathOfUri? uri = some p) :
    namesOfUri? uri = some p.nameBytes := by
  obtain ⟨locator, hread, hpath⟩ := Option.bind_eq_some_iff.1 h
  obtain ⟨bytes, hbytes, htext⟩ := Option.bind_eq_some_iff.1 hpath
  obtain ⟨text, hcut, rfl⟩ := exists_of_ofBytes?_eq_some htext
  unfold namesOfUri? pathBytesOfUri?
  rw [hread, Option.bind_some, hbytes, Option.map_some, namesOfBytes_flatMap, String.ofList_toList]
  unfold Path.ofText? at hcut
  split at hcut
  · next first rest hpieces =>
    rw [hpieces, ← Option.some.inj hcut]
    rfl
  · cases hcut

/-! ## Uris -/

theorem percentEncodeBytes_flatMap (reserved s : List Char) :
    percentEncodeBytes reserved (s.flatMap String.utf8EncodeChar) = percentEncode reserved s := by
  unfold percentEncodeBytes percentEncode
  rw [List.flatMap_assoc]
  refine List.flatMap_congr fun c _ => ?_
  rcases Nat.lt_or_ge c.toNat 0x80 with hascii | houtside
  · rw [utf8EncodeChar_of_lt hascii, List.flatMap_singleton, List.flatMap_singleton]
    simp only [ofNat_toNat_ofNat_of_lt hascii]
  · -- All bytes of a character outside ASCII are encoded.
    have hcontrol : ∀ {d : Char}, 0x80 ≤ d.toNat → isControl d = true := by
      intro d hd
      unfold isControl
      rw [Bool.or_eq_true, decide_eq_true_iff, decide_eq_true_iff]
      exact .inr (by omega)
    rw [hcontrol houtside, Bool.true_or, if_pos rfl]
    refine List.flatMap_congr fun b hb => ?_
    have hlarge : 0x80 ≤ (Char.ofNat b.toNat).toNat := by
      rw [toNat_ofNat_byte]
      rcases toNat_of_mem_utf8EncodeChar hb with hlarge | hsame
      · exact hlarge
      · exact hsame ▸ houtside
    simp only [hcontrol hlarge, Bool.true_or, if_true]

/-- The uri of a path is that of its names. -/
theorem uriOfNames_nameBytes (p : Path) : uriOfNames p.nameBytes = uriOfPath p := by
  unfold uriOfNames uriOfPath Path.nameBytes
  cases p.names with
  | nil => rfl
  | cons name rest =>
    simp only [List.map_cons, List.map_map, Function.comp_def, percentEncodeBytes_flatMap]

end Locator

end Traceability
