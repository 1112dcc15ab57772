import Traceability.Proofs.Locator.Detours
import Traceability.Proofs.Report.Verdict
set_option autoImplicit false

/-!
# Where findings are reported

A report names the file of a finding by its path relative to the root, which is told from the uri of the file.  Where
this uri leads back to the path of the file, the name that is shown leads from the root to the file.  Below a root with
two dots in its path it does not, and the whole path is shown; nor does it where the path begins with a drive that is
marked by a bar.
-/

namespace Traceability

namespace Path

/-! ## Relative paths -/

/-- The names of a directory are left out in front. -/
theorem relativePieces?_append {names : List String} (h : ∀ name ∈ names, isIdle name = false) (pieces : List String) :
    relativePieces? names (names ++ pieces) = some (trimIdle pieces) := by
  induction names with
  | nil => rw [List.nil_append, relativePieces?]
  | cons name rest ih =>
    obtain ⟨hname, hrest⟩ := List.forall_mem_cons.1 h
    rw [List.cons_append, relativePieces?, if_neg (by simp [hname]), if_pos rfl, ih hrest]

/-- A path lies in a directory only if it has the names of the directory. -/
theorem mem_of_relativePieces?_eq_some {names pieces left : List String} (h : relativePieces? names pieces = some left)
    {name : String} (hname : name ∈ names) : name ∈ pieces := by
  fun_induction relativePieces? names pieces with
  | case1 => cases hname
  | case2 => cases h
  | case3 first rest piece pieces _ ih => exact List.mem_cons_of_mem piece (ih h hname)
  | case4 first rest pieces _ ih =>
    rcases List.mem_cons.1 hname with rfl | hname
    · exact List.mem_cons_self
    · exact List.mem_cons_of_mem _ (ih h hname)
  | case5 => cases h

/-- Names that are joined are no absolute path. -/
theorem ofText?_intercalate {names : List String} (h : ∀ name ∈ names, IsName name) :
    ofText? ("/".intercalate names) = none := by
  cases names with
  | nil => rfl
  | cons first rest =>
    unfold ofText?
    rw [cut_intercalate (List.cons_ne_nil _ _) fun name hname => (h name hname).2.2]
    split
    · next heq =>
      have hfirst := (h first List.mem_cons_self).1
      rw [(List.cons.inj heq).1] at hfirst
      exact absurd hfirst (by decide)
    · rfl

/-- Names that are joined are read below a directory. -/
theorem ofTextIn_intercalate (directory : Path) {names : List String} (h : ∀ name ∈ names, IsName name) :
    ofTextIn directory ("/".intercalate names) = directory.append (if names = [] then [""] else names) := by
  unfold ofTextIn
  rw [ofText?_intercalate h]
  by_cases hnil : names = []
  · rw [if_pos hnil, hnil]
    rfl
  · rw [if_neg hnil, cut_intercalate hnil fun name hname => (h name hname).2.2]

end Path

namespace Report

/-! ## Shown paths -/

/-- A text with slashes in place of backslashes. -/
def withSlashes (text : String) : String := String.ofList (text.toList.map fun c => if c = '\\' then '/' else c)

theorem withSlashes_eq_self {text : String} (h : '\\' ∉ text.toList) : withSlashes text = text := by
  have hmap : text.toList.map (fun c => if c = '\\' then '/' else c) = text.toList := by
    refine (List.map_congr_left ?_).trans (List.map_id _)
    intro c hc
    refine if_neg ?_
    rintro rfl
    exact h hc
  unfold withSlashes
  rw [hmap, String.ofList_toList]

/-- An absolute path is still one with slashes in place of backslashes. -/
theorem isSome_ofText?_withSlashes_text (p : Path) : (Path.ofText? (withSlashes p.text)).isSome = true := by
  have htext : ∃ rest, (withSlashes p.text).toList = '/' :: rest := by
    unfold withSlashes
    rw [String.toList_ofList, p.text_toList, List.map_cons]
    exact ⟨_, rfl⟩
  obtain ⟨rest, hrest⟩ := htext
  obtain ⟨q, hq, _⟩ := Path.exists_ofText?_of_slash hrest
  rw [hq]
  rfl

theorem shownPath_eq (root : Path) {uri : String} {q : Path} (h : Locator.pathOfUri? uri = some q) :
    shownPath root uri = withSlashes ((q.relativeTo? root).getD q.text) := by
  unfold shownPath
  rw [h]
  rfl

theorem withSlashes_intercalate {names : List String} (h : ∀ name ∈ names, '\\' ∉ name.toList) :
    withSlashes ("/".intercalate names) = "/".intercalate names := by
  apply withSlashes_eq_self
  have hslash : "/".toList = ['/'] := rfl
  rw [String.toList_intercalate, hslash]
  intro hmem
  rcases Text.mem_intercalate hmem with heq | ⟨chars, hchars, hc⟩
  · exact absurd heq (by decide)
  · obtain ⟨name, hname, rfl⟩ := List.mem_map.1 hchars
    exact h name hname hc

end Report

/-! ## Where shown paths lead -/

namespace Workspace

/-- A text is a relative path that leads from the root to a file of the project. -/
def LeadsTo (w : Workspace) (d : Disk) (text : String) (file : ProjectFile) : Prop :=
  Path.ofText? text = none ∧ ∃ base, d.resolve? w.root = some base ∧
    d.resolve? (Path.ofTextIn w.root text) = some (base ++ file.relative)

variable {w : Workspace} {d : Disk} {file : ProjectFile}

theorem not_leadsTo_of_isSome {text : String} (h : (Path.ofText? text).isSome = true) : ¬ w.LeadsTo d text file := by
  rintro ⟨hnone, _⟩
  rw [hnone] at h
  cases h

/-- What names below the root lead to is told without the pieces of the root. -/
theorem resolve?_ofTextIn {base names : List String} (hbase : d.resolve? w.root = some base)
    (hdirectory : d.isDirectory base = true) (hnames : ∀ name ∈ names, Path.IsName name) :
    d.resolve? (Path.ofTextIn w.root ("/".intercalate names)) = d.follow base names := by
  unfold Disk.resolve? at hbase ⊢
  rw [Path.ofTextIn_intercalate w.root hnames, Path.append, Disk.follow_append, hbase, Option.bind_some]
  split
  · next hnil =>
    rw [hnil]
    simp [Disk.follow, hdirectory, Path.isIdle]
  · rfl

/-- What is known of a discovered file: it lies below the root, under names that files can have. -/
theorem names_of_mem_discover (hnames : d.HasNames) (hfile : file ∈ w.discover d) :
    (∀ name ∈ file.relative, Path.IsName name) ∧ file.path.names = w.root.names ++ file.relative ∧
      ∃ base, d.resolve? w.root = some base ∧ base ++ file.relative ∈ d.files := by
  obtain ⟨base, relative, content, hbase, hcontent, _, rfl⟩ := (mem_discover_iff w d file).1 hfile
  have hrelative : ∀ name ∈ relative, Path.IsName name := by
    intro name hname
    exact hnames.isName hcontent name (List.mem_append_right base hname)
  refine ⟨hrelative, names_pathBelow hrelative, base, hbase, ?_⟩
  rw [Std.ExtTreeMap.mem_iff_isSome_getElem?, hcontent]
  rfl

/-- If the root has no two dots, neither has the path of a discovered file, so this path is plain unless it begins with a
bar behind the letter of a drive. -/
theorem isPlain_of_mem_discover (hnames : d.HasNames) (hfile : file ∈ w.discover d) (hdots : ".." ∉ w.root.names)
    (hbar : ∀ letter rest, letter.isAlpha = true → file.path.names = String.ofList [letter, '|'] :: rest → rest = []) :
    file.path.IsPlain := by
  obtain ⟨hrelative, hpath, _⟩ := names_of_mem_discover hnames hfile
  refine ⟨?_, hbar⟩
  rw [hpath, List.mem_append, not_or]
  exact ⟨hdots, fun hparent => (hrelative ".." hparent).2.1 rfl⟩

/-- The names below the root lead to the file. -/
theorem leadsTo_relative {base : List String} (hnames : d.HasNames) (hfile : file ∈ w.discover d)
    (hbase : d.resolve? w.root = some base) (hdirectory : d.isDirectory base = true) :
    w.LeadsTo d ("/".intercalate file.relative) file := by
  obtain ⟨hrelative, _, base', hbase', hmem⟩ := names_of_mem_discover hnames hfile
  obtain rfl : base = base' := Option.some.inj (hbase.symm.trans hbase')
  refine ⟨Path.ofText?_intercalate hrelative, base, hbase, ?_⟩
  rw [← List.append_nil (base ++ file.relative)] at hmem
  rw [resolve?_ofTextIn hbase hdirectory hrelative]
  exact Disk.follow_of_mem hrelative hmem

/-- Other names lead elsewhere. -/
theorem not_leadsTo_of_ne {base names : List String} (hbase : d.resolve? w.root = some base)
    (hdirectory : d.isDirectory base = true) (hnames : ∀ name ∈ names, Path.IsName name) (hne : names ≠ file.relative) :
    ¬ w.LeadsTo d ("/".intercalate names) file := by
  rintro ⟨_, base', hbase', hleads⟩
  obtain rfl : base = base' := Option.some.inj (hbase.symm.trans hbase')
  rw [resolve?_ofTextIn hbase hdirectory hnames] at hleads
  have hdots : ".." ∉ names := fun hmem => (hnames ".." hmem).2.1 rfl
  have hkept := Disk.eq_of_follow_eq_some hdots hleads
  rw [List.append_cancel_left_eq] at hkept
  exact hne ((Path.names_eq_self (p := ⟨names⟩) hnames).symm.trans hkept.symm)

end Workspace

namespace Report

open Locator Workspace

section Workspace

variable {w : Workspace} {d : Disk} {file : ProjectFile}

/-- A file with a plain path is shown by its names below the root. -/
theorem shownPath_of_isPlain (hnames : d.HasNames) (hroot : ∀ piece ∈ w.root.pieces, '/' ∉ piece.toList)
    (hfile : file ∈ w.discover d) (hbackslash : ∀ name ∈ file.relative, '\\' ∉ name.toList) (h : file.path.IsPlain) :
    shownPath w.root (uriOfPath file.path) = "/".intercalate file.relative := by
  obtain ⟨hrelative, hpath, _⟩ := names_of_mem_discover hnames hfile
  obtain ⟨idle, hidle, hread⟩ := exists_pathOfUri?_of_isPlain h (slash_not_mem_of_mem_discover hnames hroot hfile)
  have hshort : (Path.mk (file.path.names ++ idle)).relativeTo? w.root = some ("/".intercalate file.relative) := by
    unfold Path.relativeTo?
    rw [hpath, List.append_assoc, Path.relativePieces?_append fun name => Path.isIdle_of_mem_names,
      Path.trimIdle_append (fun name hname => (hrelative name hname).1) hidle]
    rfl
  rw [shownPath_eq w.root hread, hshort, Option.getD_some, withSlashes_intercalate hbackslash]

/-- What does not lie below the root is shown by its whole path. -/
theorem isSome_ofText?_shownPath {root p : Path} {uri : String} (hread : pathOfUri? uri = some p)
    (h : Path.relativePieces? root.names p.pieces = none) : (Path.ofText? (shownPath root uri)).isSome = true := by
  have hwhole : p.relativeTo? root = none := by
    unfold Path.relativeTo?
    rw [h]
    rfl
  rw [shownPath_eq root hread, hwhole]
  exact isSome_ofText?_withSlashes_text p

/-- Below a root with two dots, files are shown by whole paths: none that is read from a uri has two dots. -/
theorem isSome_ofText?_shownPath_of_parent (hnames : d.HasNames) (hroot : ∀ piece ∈ w.root.pieces, '/' ∉ piece.toList)
    (hfile : file ∈ w.discover d) (h : ".." ∈ w.root.names) :
    (Path.ofText? (shownPath w.root (uriOfPath file.path))).isSome = true := by
  obtain ⟨q, hread, hdots⟩ := exists_pathOfUri?_uriOfPath (slash_not_mem_of_mem_discover hnames hroot hfile)
  apply isSome_ofText?_shownPath hread
  rw [Option.eq_none_iff_forall_ne_some]
  intro left hleft
  exact hdots (Path.mem_of_relativePieces?_eq_some hleft h)

/-- A path with a bar behind the letter of its drive is shown with a colon, or as a whole if the drive is the root's. -/
theorem not_leadsTo_of_bar {base rest : List String} {letter : Char} (hnames : d.HasNames)
    (hroot : ∀ piece ∈ w.root.pieces, '/' ∉ piece.toList) (hdots : ".." ∉ w.root.names) (hfile : file ∈ w.discover d)
    (hbackslash : ∀ name ∈ file.relative, '\\' ∉ name.toList) (hbase : d.resolve? w.root = some base)
    (hdirectory : d.isDirectory base = true) (hletter : letter.isAlpha = true) (hrest : rest ≠ [])
    (hbar : file.path.names = String.ofList [letter, '|'] :: rest) :
    ¬ w.LeadsTo d (shownPath w.root (uriOfPath file.path)) file := by
  obtain ⟨hrelative, hpath, _⟩ := names_of_mem_discover hnames hfile
  have hothers : ∀ name ∈ rest, Path.IsName name := by
    intro name hname
    have hmem : name ∈ w.root.names ++ file.relative := by
      rw [← hpath, hbar]
      exact List.mem_cons_of_mem _ hname
    rcases List.mem_append.1 hmem with hmem | hmem
    · exact ⟨Path.isIdle_of_mem_names hmem, fun h => hdots (h ▸ hmem), hroot name (List.mem_filter.1 hmem).1⟩
    · exact hrelative name hmem
  have hdrive : Path.IsName (String.ofList [letter, ':']) := isName_drive hletter (by decide)
  have hmark : String.ofList [letter, ':'] ≠ String.ofList [letter, '|'] := by
    rw [ne_eq, String.ofList_inj]
    simp
  obtain ⟨idle, hidle, hread⟩ := exists_pathOfUri?_of_bar hletter hrest hbar hothers
  rw [hbar] at hpath
  cases hcases : w.root.names with
  | nil =>
    rw [hcases, List.nil_append] at hpath
    have hnamed : ∀ name ∈ String.ofList [letter, ':'] :: rest, Path.IsName name :=
      List.forall_mem_cons.2 ⟨hdrive, hothers⟩
    have hshort : (Path.mk (String.ofList [letter, ':'] :: rest ++ idle)).relativeTo? w.root =
        some ("/".intercalate (String.ofList [letter, ':'] :: rest)) := by
      unfold Path.relativeTo?
      rw [hcases, Path.relativePieces?, Path.trimIdle_append (fun name hname => (hnamed name hname).1) hidle]
      rfl
    have hkept : ∀ name ∈ String.ofList [letter, ':'] :: rest, '\\' ∉ name.toList := by
      rw [← hpath, List.forall_mem_cons] at hbackslash
      refine List.forall_mem_cons.2 ⟨?_, hbackslash.2⟩
      have hfirst := hbackslash.1
      rw [String.toList_ofList] at hfirst ⊢
      simpa using hfirst
    rw [shownPath_eq w.root hread, hshort, Option.getD_some, withSlashes_intercalate hkept]
    apply not_leadsTo_of_ne hbase hdirectory hnamed
    rw [← hpath]
    exact fun heq => hmark (List.cons.inj heq).1
  | cons first others =>
    rw [hcases, List.cons_append] at hpath
    apply not_leadsTo_of_isSome
    apply isSome_ofText?_shownPath hread
    rw [hcases, ← (List.cons.inj hpath).1, List.cons_append, Path.relativePieces?,
      if_neg (ne_true_of_eq_false hdrive.1), if_neg hmark]

/-- The name that is shown leads from the root to the file just if the path of the file is plain. -/
theorem leadsTo_shownPath_iff {base : List String} (hnames : d.HasNames)
    (hroot : ∀ piece ∈ w.root.pieces, '/' ∉ piece.toList) (hfile : file ∈ w.discover d)
    (hbackslash : ∀ name ∈ file.relative, '\\' ∉ name.toList) (hbase : d.resolve? w.root = some base)
    (hdirectory : d.isDirectory base = true) :
    w.LeadsTo d (shownPath w.root (uriOfPath file.path)) file ↔ file.path.IsPlain := by
  constructor
  · intro hleads
    have hdots : ".." ∉ w.root.names := by
      intro hparent
      exact not_leadsTo_of_isSome (isSome_ofText?_shownPath_of_parent hnames hroot hfile hparent) hleads
    apply isPlain_of_mem_discover hnames hfile hdots
    intro letter rest hletter hbar
    by_contra hrest
    exact not_leadsTo_of_bar hnames hroot hdots hfile hbackslash hbase hdirectory hletter hrest hbar hleads
  · intro hplain
    rw [shownPath_of_isPlain hnames hroot hfile hbackslash hplain]
    exact leadsTo_relative hnames hfile hbase hdirectory

end Workspace

end Report

/-! ## Projects -/

namespace Report

open Locator

/-- A check of a directory reports the findings in the files of the project, each with the path that is shown for its
file.  Where no name below the root holds a backslash, this path leads from the root to the file just if the path of the
file is plain.  If the root is given with two dots, all paths are whole ones. -/
theorem paths_of_findings {d : Disk} {directory : Path} {root : String} {settings : Settings} {w : Workspace}
    (hw : Workspace.create directory root settings = .ok w) (hslash : ∀ piece ∈ directory.pieces, '/' ∉ piece.toList)
    (hnames : d.HasNames) (hroot : ∃ base, d.resolve? w.root = some base ∧ d.isDirectory base = true)
    (hbackslash : ∀ file ∈ w.discover d, ∀ name ∈ file.relative, '\\' ∉ name.toList) :
    ∃ r, ofProject d directory root settings = .ok r ∧
      (∀ reported, reported ∈ r.findings ↔
        ∃ file ∈ w.discover d, ∃ text, String.fromUTF8? file.content = some text ∧
          ∃ f ∈ Index.expectedFindings settings.options (w.texts d) (uriOfPath file.path) text,
            reported = ⟨shownPath w.root (uriOfPath file.path),
              (SeverityPolicy.ofSettings settings).severity (uriOfPath file.path) f.category, f⟩) ∧
      (∀ file ∈ w.discover d, w.LeadsTo d (shownPath w.root (uriOfPath file.path)) file ↔ file.path.IsPlain) ∧
      (".." ∈ w.root.names → ∀ reported ∈ r.findings, (Path.ofText? reported.path).isSome = true) := by
  have hpieces := Workspace.slash_not_mem_root_of_create_in hw hslash
  obtain ⟨base, hbase, hdirectory⟩ := hroot
  have hreport : ofProject d directory root settings = .ok (ofWorkspace d w settings) := by
    unfold ofProject
    rw [hw]
    rfl
  have hfindings : ∀ reported, reported ∈ (ofWorkspace d w settings).findings ↔
      ∃ file ∈ w.discover d, ∃ text, String.fromUTF8? file.content = some text ∧
        ∃ f ∈ Index.expectedFindings settings.options (w.texts d) (uriOfPath file.path) text,
          reported = ⟨shownPath w.root (uriOfPath file.path),
            (SeverityPolicy.ofSettings settings).severity (uriOfPath file.path) f.category, f⟩ := by
    intro reported
    rw [mem_findings_ofWorkspace_iff hnames]
    constructor
    · rintro ⟨live, hlive, hfinding⟩
      obtain ⟨file, hfile, text, htext, rfl⟩ := (w.mem_texts_iff d live).1 hlive
      exact ⟨file, hfile, text, htext, hfinding⟩
    · rintro ⟨file, hfile, text, htext, hfinding⟩
      exact ⟨(uriOfPath file.path, text), (w.mem_texts_iff d _).2 ⟨file, hfile, text, htext, rfl⟩, hfinding⟩
  refine ⟨_, hreport, hfindings, ?_, ?_⟩
  · intro file hfile
    exact leadsTo_shownPath_iff hnames hpieces hfile (hbackslash file hfile) hbase hdirectory
  · intro hparent reported hreported
    obtain ⟨file, hfile, _, _, f, _, heq⟩ := (hfindings reported).1 hreported
    rw [heq]
    dsimp only
    exact isSome_ofText?_shownPath_of_parent hnames hpieces hfile hparent

/-- How the root is written makes no difference without two dots, nor does what needs encoding in names. -/
theorem paths_of_findings_in_directory :
    let d : Disk :=
      { files := .ofList [(["p", "q", "é 100%", "a:.shalldn"], "# *x*\n\n**A** The x **shall** go.\n".toUTF8)] }
    ∃ w r, Workspace.create ⟨["p"]⟩ ".//q/" {} = .ok w ∧ (∀ piece ∈ ["p"], '/' ∉ piece.toList) ∧ d.HasNames ∧
      (∃ base, d.resolve? w.root = some base ∧ d.isDirectory base = true) ∧
      (∀ file ∈ w.discover d, ∀ name ∈ file.relative, '\\' ∉ name.toList) ∧
      ofProject d ⟨["p"]⟩ ".//q/" {} = .ok r ∧ r.findings.map (·.path) = ["é 100%/a:.shalldn"] ∧
      ∀ file ∈ w.discover d, w.LeadsTo d (shownPath w.root (uriOfPath file.path)) file := by
  intro d
  have hvalid : (Workspace.create ⟨["p"]⟩ ".//q/" {}).isOk = true := by
    decide +kernel
  obtain ⟨w, hw⟩ := Workspace.exists_eq_ok hvalid
  have hwritten : w.root = ⟨["p", "q", ""]⟩ :=
    (Option.some.inj ((Workspace.absolute?_of_create hw).symm.trans (by decide +kernel)))
  have hslash : ∀ piece ∈ ["p"], '/' ∉ piece.toList := by
    decide
  have hnames : d.HasNames := by
    decide +kernel
  have hroot : ∃ base, d.resolve? w.root = some base ∧ d.isDirectory base = true := by
    rw [hwritten]
    exact ⟨["p", "q"], by decide +kernel, by decide +kernel⟩
  have hbackslash : ∀ file ∈ w.discover d, ∀ name ∈ file.relative, '\\' ∉ name.toList := by
    have hall : ∀ names ∈ d.files.keys, ∀ name ∈ names, '\\' ∉ name.toList := by
      decide +kernel
    intro file hfile name hname
    obtain ⟨_, _, base, _, hmem⟩ := Workspace.names_of_mem_discover hnames hfile
    exact hall _ (Std.ExtTreeMap.mem_keys.2 hmem) name (List.mem_append_right base hname)
  obtain ⟨r, hr, _, hleads, _⟩ := paths_of_findings hw hslash hnames hroot hbackslash
  have hpaths : (ofProject d ⟨["p"]⟩ ".//q/" {}).toOption.map (fun r => r.findings.map (·.path)) =
      some ["é 100%/a:.shalldn"] := by
    decide +kernel
  rw [hr] at hpaths
  refine ⟨w, r, hw, hslash, hnames, hroot, hbackslash, hr, Option.some.inj hpaths, ?_⟩
  intro file hfile
  obtain ⟨_, hpath, _⟩ := Workspace.names_of_mem_discover hnames hfile
  apply (hleads file hfile).2
  apply Workspace.isPlain_of_mem_discover hnames hfile
  · rw [hwritten]
    decide
  · intro letter rest _ hbar
    rw [hpath, hwritten] at hbar
    have hfirst : ['p'] = [letter, '|'] := String.ofList_inj.1 (List.cons.inj hbar).1
    cases (List.cons.inj hfirst).2

/-- A check of the directory above the one from which relative paths count reports a finding under its whole path, which
leads from the root to no file of the project. -/
theorem path_of_finding_in_parent :
    let d : Disk :=
      { files := .ofList [(["p", "a.shalldn"], "# *x*\n\n**A** The x **shall** go.\n".toUTF8)]
        directories := [["p", "x"]] }
    ∃ w r, Workspace.create ⟨["p", "x"]⟩ ".." {} = .ok w ∧ d.resolve? w.root = some ["p"] ∧
      d.isDirectory ["p"] = true ∧ ofProject d ⟨["p", "x"]⟩ ".." {} = .ok r ∧
      ∃ reported ∈ r.findings, ∀ file, ¬ w.LeadsTo d reported.path file := by
  intro d
  have hvalid : (Workspace.create ⟨["p", "x"]⟩ ".." {}).isOk = true := by
    decide +kernel
  obtain ⟨w, hw⟩ := Workspace.exists_eq_ok hvalid
  have hwritten : w.root = ⟨["p", "x", ".."]⟩ :=
    (Option.some.inj ((Workspace.absolute?_of_create hw).symm.trans (by decide +kernel)))
  have hreport : ofProject d ⟨["p", "x"]⟩ ".." {} = .ok (ofWorkspace d w {}) := by
    unfold ofProject
    rw [hw]
    rfl
  have hpaths : (ofProject d ⟨["p", "x"]⟩ ".." {}).toOption.map (fun r => r.findings.map (·.path)) =
      some ["/p/a.shalldn"] := by
    decide +kernel
  rw [hreport] at hpaths
  have hlist : (ofWorkspace d w {}).findings.map (·.path) = ["/p/a.shalldn"] := Option.some.inj hpaths
  obtain ⟨reported, hmem, hpath⟩ := List.mem_map.1 (hlist ▸ List.mem_cons_self)
  refine ⟨w, _, hw, ?_, by decide +kernel, hreport, reported, hmem, ?_⟩
  · rw [hwritten]
    decide +kernel
  · intro file
    apply Workspace.not_leadsTo_of_isSome
    rw [hpath]
    decide +kernel

end Report

end Traceability
