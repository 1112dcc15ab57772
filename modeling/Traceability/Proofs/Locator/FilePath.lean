import Traceability.Proofs.Locator.FileUri
import Traceability.Proofs.Locator.PathBytes
set_option autoImplicit false

/-!
# Paths of files and back

Different paths in normal form have different uris, and the uri of a path denotes this path.  There are two exceptions,
both due to drives: a path that begins with a letter and a bar is taken for one with a colon, and one that ends in a
letter and a colon or a bar gets a slash, which leads nowhere if there is a file.
-/

namespace Traceability

namespace Path

/-- Whether a file or a directory can have a name. -/
def IsName (name : String) : Prop := isIdle name = false ∧ name ≠ ".." ∧ '/' ∉ name.toList

instance (name : String) : Decidable (IsName name) := inferInstanceAs (Decidable (_ ∧ _ ∧ _))

/-- A path in normal form that does not begin with a drive that is marked by a bar, unless there is nothing behind. -/
structure IsRegular (p : Path) : Prop where
  named : ∀ piece ∈ p.pieces, IsName piece
  barless : ∀ letter rest, letter.isAlpha = true → p.pieces = String.ofList [letter, '|'] :: rest → rest = []

/-- Whether the text of a path ends in a letter and a colon or a bar. -/
def endsInDrive (p : Path) : Bool := Locator.isDrive (p.text.toList.drop (p.text.toList.length - 2))

theorem names_eq_self {p : Path} (h : ∀ piece ∈ p.pieces, IsName piece) : p.names = p.pieces := by
  unfold names
  rw [List.filter_eq_self]
  intro piece hpiece
  rw [(h piece hpiece).1]
  rfl

/-- What is left when idle pieces are dropped is in normal form. -/
theorem names_names (p : Path) : names ⟨p.names⟩ = p.names := by
  unfold names
  rw [List.filter_filter]
  simp only [Bool.and_self]

theorem isIdle_of_mem_names {p : Path} {name : String} (h : name ∈ p.names) : isIdle name = false := by
  simpa using (List.mem_filter.1 h).2

theorem IsRegular.names_eq {p : Path} (h : p.IsRegular) : p.names = p.pieces := names_eq_self h.named

theorem IsRegular.isPlain {p : Path} (h : p.IsRegular) : p.IsPlain := by
  constructor
  · rw [h.names_eq]
    intro hparent
    exact (h.named ".." hparent).2.1 rfl
  · rw [h.names_eq]
    exact h.barless

/-- It is enough to look at the end of the first name. -/
theorem IsRegular.of_head {p : Path} (hnamed : ∀ piece ∈ p.pieces, IsName piece)
    (hfirst : ∀ first ∈ p.pieces.head?, first.toList.getLast? ≠ some '|') : p.IsRegular := by
  refine ⟨hnamed, ?_⟩
  intro letter rest _ hpieces
  rw [hpieces] at hfirst
  exact absurd (by simp) (hfirst _ rfl)

/-! ## Text -/

theorem text_toList (p : Path) : p.text.toList = '/' :: ['/'].intercalate (p.pieces.map String.toList) := by
  unfold text
  rw [String.toList_append, String.toList_intercalate]
  rfl

/-- Pieces that are joined are cut again where they were joined. -/
theorem cut_intercalate {pieces : List String} (hne : pieces ≠ []) (h : ∀ piece ∈ pieces, '/' ∉ piece.toList) :
    cut ("/".intercalate pieces) = pieces := by
  have hslash : "/".toList = ['/'] := rfl
  unfold cut
  rw [String.toList_intercalate, hslash, Text.fields_intercalate (p := (· == '/')) rfl (mt List.map_eq_nil_iff.1 hne),
    List.map_map]
  · refine (List.map_congr_left ?_).trans (List.map_id _)
    intro piece _
    exact String.ofList_toList
  · intro chars hchars c hc
    obtain ⟨piece, hpiece, rfl⟩ := List.mem_map.1 hchars
    rw [beq_eq_false_iff_ne]
    rintro rfl
    exact h piece hpiece hc

/-- The slash at the beginning of a text is cut off. -/
theorem cut_slash {text : String} {rest : List Char} (h : text.toList = '/' :: rest) :
    cut text = "" :: cut (String.ofList rest) := by
  unfold cut
  rw [h, Text.fields_cons_of_pos (p := (· == '/')) rfl, List.map_cons, String.toList_ofList]

theorem cut_ne_nil (text : String) : cut text ≠ [] := mt List.map_eq_nil_iff.1 (Text.fields_ne_nil _ _)

theorem slash_not_mem_of_mem_cut {text piece : String} (h : piece ∈ cut text) : '/' ∉ piece.toList := by
  obtain ⟨field, hfield, rfl⟩ := List.mem_map.1 h
  intro hslash
  rw [String.toList_ofList] at hslash
  exact absurd (Text.eq_false_of_mem_fields hfield hslash) (by decide)

theorem cut_text (p : Path) : cut p.text = "" :: cut ("/".intercalate p.pieces) := by
  have hslash : "/".toList = ['/'] := rfl
  rw [cut_slash p.text_toList, ← String.ofList_toList (s := "/".intercalate p.pieces), String.toList_intercalate,
    hslash]

/-- The text of a path can be read again; that of the root has an empty piece behind its slash. -/
theorem ofText?_text {p : Path} (h : ∀ piece ∈ p.pieces, '/' ∉ piece.toList) :
    ofText? p.text = some (if p.pieces = [] then ⟨[""]⟩ else p) := by
  unfold ofText?
  rw [cut_text]
  obtain ⟨pieces⟩ := p
  cases pieces with
  | nil => rfl
  | cons first rest =>
    rw [cut_intercalate (List.cons_ne_nil _ _) h, if_neg (List.cons_ne_nil _ _)]
    rfl

theorem text_append_slash {p : Path} (h : p.pieces ≠ []) : p.text ++ "/" = text ⟨p.pieces ++ [""]⟩ := by
  have hslash : "/".toList = ['/'] := rfl
  apply String.toList_inj.1
  rw [String.toList_append, text_toList, text_toList, ← Locator.flatMap_slash (mt List.map_eq_nil_iff.1 h),
    ← Locator.flatMap_slash (by simp), List.map_append, List.flatMap_append, hslash]
  rfl

/-- A text with a slash at its beginning can be read as a path, and no piece of what is read holds a slash. -/
theorem exists_ofText?_of_slash {text : String} {rest : List Char} (h : text.toList = '/' :: rest) :
    ∃ q, ofText? text = some q ∧ ∀ piece ∈ q.pieces, '/' ∉ piece.toList := by
  obtain ⟨first, others, hothers⟩ := List.exists_cons_of_ne_nil (cut_ne_nil (String.ofList rest))
  refine ⟨⟨first :: others⟩, ?_, ?_⟩
  · unfold ofText?
    rw [cut_slash h, hothers]
    rfl
  · intro piece hpiece
    rw [← hothers] at hpiece
    exact slash_not_mem_of_mem_cut hpiece

/-- The text of any path can be read, whatever its pieces, and no piece of what is read holds a slash. -/
theorem exists_ofText?_text (p : Path) :
    ∃ q, ofText? p.text = some q ∧ ∀ piece ∈ q.pieces, '/' ∉ piece.toList :=
  exists_ofText?_of_slash p.text_toList

/-- No piece of a path that is read in a directory holds a slash, if none of the directory does. -/
theorem slash_not_mem_ofTextIn {directory : Path} (h : ∀ piece ∈ directory.pieces, '/' ∉ piece.toList) (text : String) :
    ∀ piece ∈ (ofTextIn directory text).pieces, '/' ∉ piece.toList := by
  intro piece hpiece
  unfold ofTextIn ofText? at hpiece
  split at hpiece
  · next read hread =>
    split at hread
    · next first rest hcut =>
      rw [← Option.some.inj hread] at hpiece
      refine slash_not_mem_of_mem_cut (?_ : piece ∈ cut text)
      rw [hcut]
      exact List.mem_cons_of_mem _ hpiece
    · cases hread
  · rcases List.mem_append.1 hpiece with hpiece | hpiece
    · exact h piece hpiece
    · exact slash_not_mem_of_mem_cut hpiece

end Path

namespace Locator

/-! ## Names from uris -/

theorem fileSegments_of_ne_nil {p : Path} (h : p.names ≠ []) :
    fileSegments p = p.names.map fun name => percentEncode nameReserved name.toList := by
  unfold fileSegments
  split
  · next hnil => exact absurd hnil h
  · rfl

theorem nil_not_mem_fileSegments {p : Path} (h : p.names ≠ []) : [] ∉ fileSegments p := by
  rw [fileSegments_of_ne_nil h]
  intro hmem
  obtain ⟨name, hname, hnil⟩ := List.mem_map.1 hmem
  have hempty : name.toList = [] := by
    by_contra hne
    exact percentEncode_ne_nil hne hnil
  have hidle := Path.isIdle_of_mem_names hname
  rw [String.toList_eq_nil_iff.1 hempty] at hidle
  exact absurd hidle (by decide)

/-- Idle pieces of a path have no part in its uri. -/
theorem uriOfPath_congr {p q : Path} (h : p.names = q.names) : uriOfPath p = uriOfPath q := by
  unfold uriOfPath
  rw [h]

/-- Paths with the same uri have the same names. -/
theorem names_eq_of_uriOfPath_eq {p q : Path} (h : uriOfPath p = uriOfPath q) : p.names = q.names := by
  have hsegments : fileSegments p = fileSegments q := by
    rw [uriOfPath_eq, uriOfPath_eq, String.ofList_inj, List.append_cancel_left_eq] at h
    have hfields : ∀ r : Path, Text.fields (isSlash true) (fileBody r) = fileSegments r := by
      intro r
      apply Text.fields_intercalate rfl (fileSegments_ne_nil r)
      intro segment hsegment c hc
      exact isSlash_of_isInner (isInner_of_mem_fileSegments hsegment hc)
    rw [← hfields, ← hfields, h]
  by_cases hp : p.names = []
  · by_cases hq : q.names = []
    · rw [hp, hq]
    · have hnil := nil_not_mem_fileSegments hq
      rw [← hsegments] at hnil
      unfold fileSegments at hnil
      rw [hp] at hnil
      exact absurd List.mem_cons_self hnil
  · by_cases hq : q.names = []
    · have hnil := nil_not_mem_fileSegments hp
      rw [hsegments] at hnil
      unfold fileSegments at hnil
      rw [hq] at hnil
      exact absurd List.mem_cons_self hnil
    · rw [fileSegments_of_ne_nil hp, fileSegments_of_ne_nil hq] at hsegments
      refine List.map_injective_iff.2 ?_ hsegments
      intro name other hencoded
      exact String.toList_inj.1 (percentEncode_injective (by decide) hencoded)

theorem eq_of_uriOfPath_eq {p q : Path} (hp : p.IsRegular) (hq : q.IsRegular) (h : uriOfPath p = uriOfPath q) :
    p = q := by
  have hnames := names_eq_of_uriOfPath_eq h
  rw [hp.names_eq, hq.names_eq] at hnames
  obtain ⟨pieces⟩ := p
  exact congrArg Path.mk hnames

/-! ## Paths from uris -/

/-- A name as it is written in the uri of a file. -/
def segmentOf (name : String) : List Char := percentEncode nameReserved name.toList

/-- Names that are written behind slashes have the bytes of the text of the path with these names. -/
theorem flatMap_percentDecode_segmentOf {names : List String} (h : names ≠ []) :
    ((names.map segmentOf).flatMap fun s => 0x2f :: percentDecode s) =
      (Path.text ⟨names⟩).toList.flatMap String.utf8EncodeChar := by
  have hslash : String.utf8EncodeChar '/' = [0x2f] := rfl
  have hdecoded : ∀ name, percentDecode (segmentOf name) = name.toList.flatMap String.utf8EncodeChar := fun name =>
    percentDecode_percentEncode (by decide : '%' ∈ nameReserved) name.toList
  have htext : (Path.text ⟨names⟩).toList = (names.map String.toList).flatMap fun s => '/' :: s := by
    rw [flatMap_slash (mt List.map_eq_nil_iff.1 h), Path.text_toList]
  rw [htext]
  clear htext h
  induction names with
  | nil => rfl
  | cons first rest ih =>
    simp only [List.map_cons, List.flatMap_cons, List.flatMap_append, List.cons_append, ih, hslash, hdecoded,
      List.nil_append]

/-- The path that a locator of a file denotes is read from the text of its names, which gets a slash if it ends in a
drive. -/
theorem path?_eq_of_route {l : Locator} {names : List String} (hauthority : l.authority = some {})
    (hroute : l.route = .segments (names.map segmentOf)) (hne : names ≠ []) :
    l.path? =
      Path.ofText? (if 2 < (Path.text ⟨names⟩).toList.length && Path.endsInDrive ⟨names⟩ then Path.text ⟨names⟩ ++ "/"
        else Path.text ⟨names⟩) := by
  have hbytes : l.pathBytes? = some (closeDrive ((Path.text ⟨names⟩).toList.flatMap String.utf8EncodeChar)) := by
    rw [← flatMap_percentDecode_segmentOf hne]
    obtain ⟨first, rest, rfl⟩ := List.exists_cons_of_ne_nil hne
    unfold pathBytes?
    simp [hauthority, hroute]
  have hslash : "/".toList = ['/'] := rfl
  unfold Path.endsInDrive
  rw [path?_of_pathBytes? hbytes, closeDrive_flatMap, ofBytes?_flatMap, apply_ite String.ofList, ← hslash,
    ← String.toList_append, String.ofList_toList, String.ofList_toList]

/-- The path that the uri of a path in normal form denotes is read from its text in the same way. -/
theorem path?_ofPath_eq {p : Path} (h : p.names = p.pieces) :
    (ofPath p).path? =
      Path.ofText? (if 2 < p.text.toList.length && p.endsInDrive then p.text ++ "/" else p.text) := by
  by_cases hnil : p.pieces = []
  · -- The root is written like a path with one name without text.
    have hroute : (ofPath p).route = .segments ([""].map segmentOf) := by
      unfold ofPath fileSegments
      rw [h, hnil]
      rfl
    have htext : p.text = Path.text ⟨[""]⟩ := by
      unfold Path.text
      rw [hnil]
      rfl
    rw [path?_eq_of_route rfl hroute (List.cons_ne_nil _ _)]
    unfold Path.endsInDrive
    rw [htext]
  · have hroute : (ofPath p).route = .segments (p.pieces.map segmentOf) := by
      unfold ofPath
      rw [fileSegments_of_ne_nil (h ▸ hnil), h]
      rfl
    exact path?_eq_of_route rfl hroute hnil

/-- The uri of a regular path denotes this path, unless it ends in a drive. -/
theorem path?_ofPath {p : Path} (h : p.IsRegular) (hdrive : p.endsInDrive = false) :
    (ofPath p).path? = some (if p.pieces = [] then ⟨[""]⟩ else p) := by
  rw [path?_ofPath_eq h.names_eq, hdrive, Bool.and_false]
  exact Path.ofText?_text fun piece hpiece => (h.named piece hpiece).2.2

end Locator

end Traceability
