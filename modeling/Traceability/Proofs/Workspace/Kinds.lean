import Traceability.Index.Basic
import Traceability.Proofs.Locator.FilePath
set_option autoImplicit false

/-!
# Which files are read as documents

The kind of a file is told from the extension in its uri, where controls, characters outside ASCII and some others are
encoded.  The extensions of documents are compared with it as they are set.  So a document is recognised by an extension
of characters that need no encoding, and only by such a one unless an extension is set in its encoded form.
-/

namespace Traceability

open Text

/-- Whether an extension is one of those of documents, which may be set with dots in front. -/
def Options.isDocumentExtension (o : Options) (extension : List Char) : Bool :=
  o.documentExtensions.any fun e => sameIgnoringCase (e.toList.dropWhile (· == '.')) extension

theorem Options.fileKind_eq_document_iff (o : Options) {uri : String} {extension : List Char}
    (h : extension? uri = some extension) : o.fileKind uri = .document ↔ o.isDocumentExtension extension = true := by
  unfold fileKind isDocumentExtension
  rw [h]
  simp

namespace Locator

/-! ## Encoded names -/

theorem percentEncode_append (reserved s t : List Char) :
    percentEncode reserved (s ++ t) = percentEncode reserved s ++ percentEncode reserved t :=
  List.flatMap_append

/-- A character that needs no encoding is in the encoded text only if it is in the text, unless it encodes bytes. -/
theorem not_mem_percentEncode {reserved s : List Char} {c : Char} (hc : c ∉ encodingChars) (h : c ∉ s) :
    c ∉ percentEncode reserved s := by
  unfold percentEncode
  rw [List.mem_flatMap]
  rintro ⟨original, horiginal, hmem⟩
  split at hmem
  · obtain ⟨b, _, hb⟩ := List.mem_flatMap.1 hmem
    exact hc (mem_encodingChars_of_mem_encodeByte hb)
  · rw [List.mem_singleton.1 hmem] at h
    exact h horiginal

/-- A text that needs encoding has a percent sign in its encoding. -/
theorem percent_mem_percentEncode {reserved s : List Char} {c : Char} (hc : c ∈ s)
    (hencoded : ¬ (isControl c = false ∧ c ∉ reserved)) : '%' ∈ percentEncode reserved s := by
  have hcondition : (isControl c || reserved.contains c) = true := by
    rw [Bool.or_eq_true, List.contains_iff_mem]
    by_cases hcontrol : isControl c = true
    · exact .inl hcontrol
    · rw [Bool.not_eq_true] at hcontrol
      exact .inr (not_not.1 fun hreserved => hencoded ⟨hcontrol, hreserved⟩)
  obtain ⟨digits, hdigits⟩ := exists_encoded_eq_cons c
  unfold percentEncode
  refine List.mem_flatMap.2 ⟨c, hc, ?_⟩
  rw [if_pos hcondition, hdigits]
  exact List.mem_cons_self

/-! ## Extensions -/

/-- The last segment of the uri of a file is its name, encoded. -/
theorem getLast?_fileSegments {p : Path} {name : String} (hname : p.names.getLast? = some name) :
    (fileSegments p).getLast? = some (percentEncode nameReserved name.toList) := by
  have hnames : p.names ≠ [] := by
    intro hnil
    rw [hnil] at hname
    cases hname
  rw [fileSegments_of_ne_nil hnames, List.getLast?_map, hname]
  rfl

/-- Neither a query nor a fragment ends the uri of a file. -/
theorem takeWhile_uriOfPath (p : Path) :
    (uriOfPath p).toList.takeWhile (fun c => c != '?' && c != '#') = fileMark ++ fileBody p := by
  rw [uriOfPath_eq, String.toList_ofList, List.takeWhile_eq_self_iff]
  intro c hc
  have hkept : endsPath c = false := by
    rcases List.mem_append.1 hc with hmark | hbody
    · have hmarks : fileMark.all (fun c => !endsPath c) = true := by decide
      exact (Bool.not_eq_true' _).mp (List.all_eq_true.1 hmarks c hmark)
    · rcases isInner_or_slash_of_mem_fileBody hbody with hinner | rfl
      · exact endsPath_of_isInner hinner
      · rfl
  unfold endsPath at hkept
  simpa using hkept

/-- The extension in the uri of a file is that of its name, encoded. -/
theorem extension?_uriOfPath {p : Path} {stem extension : List Char}
    (hname : p.names.getLast? = some (String.ofList (stem ++ '.' :: extension))) (hextension : '.' ∉ extension) :
    extension? (uriOfPath p) = some (percentEncode nameReserved extension) := by
  have hbody : fields (· == '/') (fileBody p) = fileSegments p := by
    apply fields_intercalate (p := (· == '/')) rfl (fileSegments_ne_nil p)
    intro segment hsegment c hc
    have hslash := isSlash_of_isInner (isInner_of_mem_fileSegments hsegment hc)
    unfold isSlash at hslash
    exact (Bool.or_eq_false_iff.1 hslash).1
  have hlast : (fields (· == '/') (fileMark ++ fileBody p)).getLast? =
      some (percentEncode nameReserved (stem ++ '.' :: extension)) := by
    have hmark : fileMark ++ fileBody p = ['f', 'i', 'l', 'e', ':', '/', '/'] ++ '/' :: fileBody p := rfl
    rw [hmark, fields_append_separator (p := (· == '/')) _ rfl, hbody,
      List.getLast?_append_of_ne_nil _ (fileSegments_ne_nil p), getLast?_fileSegments hname, String.toList_ofList]
  have hdot : '.' ∉ percentEncode nameReserved extension := not_mem_percentEncode (by decide) hextension
  have hsplit : percentEncode nameReserved (stem ++ '.' :: extension) =
      percentEncode nameReserved stem ++ '.' :: percentEncode nameReserved extension := by
    rw [percentEncode_append]
    rfl
  have hfields : fields (· == '.') (percentEncode nameReserved (stem ++ '.' :: extension)) =
      fields (· == '.') (percentEncode nameReserved stem) ++ [percentEncode nameReserved extension] := by
    rw [hsplit, fields_append_separator (p := (· == '.')) _ rfl, fields_eq_singleton (s := percentEncode _ extension)]
    intro c hc
    exact beq_false_of_ne fun h => hdot (h ▸ hc)
  obtain ⟨first, others, hfirst⟩ :=
    List.exists_cons_of_ne_nil (fields_ne_nil (· == '.') (percentEncode nameReserved stem))
  unfold extension?
  simp only [takeWhile_uriOfPath, hlast, Option.getD_some, hfields, hfirst, List.cons_append]
  split
  · next h => cases h
  · next h => simp at h
  · next h =>
    obtain ⟨rfl, rfl⟩ := List.cons.inj h
    exact List.getLast?_concat

/-! ## Documents -/

/-- A percent sign is no letter, so it has no other case. -/
theorem eq_percent_of_toLower_eq {c : Char} (h : c.toLower = '%') : c = '%' := by
  unfold Char.toLower at h
  split at h
  · next hupper =>
    have hlower : c.val + ('a'.val - 'A'.val) = '%'.val := congrArg Char.val h
    have hA : 'A'.val = 65 := rfl
    have ha : 'a'.val = 97 := rfl
    have hpercent : '%'.val = 37 := rfl
    grind
  · exact h

theorem percent_mem_of_sameIgnoringCase {s t : List Char} (h : sameIgnoringCase s t = true) (ht : '%' ∈ t) :
    '%' ∈ s := by
  have hlower : '%' ∈ t.map Char.toLower := List.mem_map.2 ⟨'%', ht, rfl⟩
  rw [← decide_eq_true_iff.1 h] at hlower
  obtain ⟨c, hc, hcase⟩ := List.mem_map.1 hlower
  exact eq_percent_of_toLower_eq hcase ▸ hc

/-- A file is a document just if the encoded form of its extension is the extension of documents.  Where no percent sign
is set in extensions, it is one just if its extension is the extension of documents and needs no encoding. -/
theorem fileKind_uriOfPath_iff (o : Options) {p : Path} {stem extension : List Char}
    (hname : p.names.getLast? = some (String.ofList (stem ++ '.' :: extension))) (hextension : '.' ∉ extension) :
    (o.fileKind (uriOfPath p) = .document ↔
        o.isDocumentExtension (percentEncode nameReserved extension) = true) ∧
      ((∀ e ∈ o.documentExtensions, '%' ∉ e.toList) →
        (o.fileKind (uriOfPath p) = .document ↔
          o.isDocumentExtension extension = true ∧ ∀ c ∈ extension, isControl c = false ∧ c ∉ nameReserved)) := by
  have hkind := o.fileKind_eq_document_iff (extension?_uriOfPath hname hextension)
  refine ⟨hkind, ?_⟩
  intro hpercent
  rw [hkind]
  by_cases hplain : ∀ c ∈ extension, isControl c = false ∧ c ∉ nameReserved
  · rw [percentEncode_eq_self hplain]
    exact (and_iff_left hplain).symm
  · refine iff_of_false ?_ fun h => hplain h.2
    obtain ⟨c, hc, hencoded⟩ : ∃ c ∈ extension, ¬ (isControl c = false ∧ c ∉ nameReserved) := by
      simpa only [not_forall, exists_prop] using hplain
    intro hdocument
    obtain ⟨e, he, hsame⟩ := List.any_eq_true.1 hdocument
    have hmem := percent_mem_of_sameIgnoringCase hsame (percent_mem_percentEncode hc hencoded)
    exact hpercent e he (List.dropWhile_sublist _ |>.subset hmem)

/-- The case of letters and dots in front make no difference, nor does what needs encoding in front of the extension. -/
theorem fileKind_uriOfPath_of_spaced_name :
    let o : Options := { documentExtensions := ["txt", ".ShallDn"] }
    let p : Path := ⟨["p", "my réqs?.1.shalldn"]⟩
    let stem := ['m', 'y', ' ', 'r', 'é', 'q', 's', '?', '.', '1']
    let extension := ['s', 'h', 'a', 'l', 'l', 'd', 'n']
    p.names.getLast? = some (String.ofList (stem ++ '.' :: extension)) ∧ '.' ∉ extension ∧
      (∀ e ∈ o.documentExtensions, '%' ∉ e.toList) ∧ o.fileKind (uriOfPath p) = .document := by
  intro o p stem extension
  have hname : p.names.getLast? = some (String.ofList (stem ++ '.' :: extension)) := by
    decide
  have hextension : '.' ∉ extension := by
    decide
  have hpercent : ∀ e ∈ o.documentExtensions, '%' ∉ e.toList := by
    decide
  have hdocument : o.isDocumentExtension extension = true := by
    decide
  have hplain : ∀ c ∈ extension, isControl c = false ∧ c ∉ nameReserved := by
    have hall : extension.all (fun c => !isControl c && !nameReserved.contains c) = true := by
      decide
    intro c hc
    simpa using List.all_eq_true.1 hall c hc
  exact ⟨hname, hextension, hpercent, ((fileKind_uriOfPath_iff o hname hextension).2 hpercent).2 ⟨hdocument, hplain⟩⟩

/-- A file with an accented extension is no document, although this extension is the one of documents. -/
theorem fileKind_uriOfPath_of_accented_extension :
    let o : Options := { documentExtensions := ["é"] }
    let p : Path := ⟨["p", "a.é"]⟩
    ¬ (o.fileKind (uriOfPath p) = .document ↔ o.isDocumentExtension ['é'] = true) := by
  intro o p
  have hname : p.names.getLast? = some (String.ofList (['a'] ++ '.' :: ['é'])) := by
    decide
  rw [o.fileKind_eq_document_iff (extension?_uriOfPath hname (by decide))]
  decide

end Locator

end Traceability
