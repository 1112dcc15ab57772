import Traceability.Proofs.Index.Calls
import Traceability.Proofs.Locator.FilePath
import Traceability.Workspace
set_option autoImplicit false

/-!
# Which files are discovered

Where no ignore file has a say, the files that are discovered are those that exist and that the workspace includes.
So an index with all of them holds, for each path, the record of the text on the disk, or no record if there is no
such text or the path is not included.
-/

namespace Traceability

namespace Disk

/-! ## Names on the disk -/

/-- All files of the disk have names that files can have. -/
def HasNames (d : Disk) : Prop := ∀ names ∈ d.files.keys, ∀ name ∈ names, Path.IsName name

instance (d : Disk) : Decidable d.HasNames :=
  inferInstanceAs (Decidable (∀ names ∈ d.files.keys, ∀ name ∈ names, Path.IsName name))

theorem HasNames.isName {d : Disk} (h : d.HasNames) {names : List String} {content : ByteArray}
    (hcontent : d.files[names]? = some content) : ∀ name ∈ names, Path.IsName name := by
  apply h names
  rw [Std.ExtTreeMap.mem_keys, Std.ExtTreeMap.mem_iff_isSome_getElem?, hcontent]
  rfl

theorem isDirectory_of_mem {d : Disk} {start rest : List String} {name : String}
    (h : start ++ name :: rest ∈ d.files) : d.isDirectory start = true := by
  have hkey : d.files.keys.any (fun file => start.isPrefixOf file && start != file) = true := by
    rw [List.any_eq_true]
    refine ⟨start ++ name :: rest, Std.ExtTreeMap.mem_keys.2 h, ?_⟩
    simp
  unfold isDirectory
  rw [hkey, Bool.or_true]

theorem follow_append (d : Disk) (start before after : List String) :
    d.follow start (before ++ after) = (d.follow start before).bind fun names => d.follow names after := by
  induction before generalizing start with
  | nil => rfl
  | cons piece rest ih =>
    rw [List.cons_append, follow, follow]
    split
    · rfl
    · split
      · exact ih start
      · split
        · exact ih start.dropLast
        · exact ih (start ++ [piece])

/-- Names lead to what they name, if something stands there. -/
theorem follow_of_mem {d : Disk} {start names rest : List String} (hnames : ∀ name ∈ names, Path.IsName name)
    (h : start ++ names ++ rest ∈ d.files) : d.follow start names = some (start ++ names) := by
  induction names generalizing start with
  | nil => simp [follow]
  | cons name others ih =>
    obtain ⟨hname, hothers⟩ := List.forall_mem_cons.1 hnames
    have hdirectory : d.isDirectory start = true := by
      rw [List.append_assoc, List.cons_append] at h
      exact isDirectory_of_mem h
    have hnext : start ++ [name] ++ others ++ rest ∈ d.files := by
      simpa using h
    rw [follow, hdirectory, hname.1]
    simp [hname.2.1, ih hothers hnext]

/-- Where no piece leads back, a path leads nowhere but to its names. -/
theorem eq_of_follow_eq_some {d : Disk} {start pieces names : List String} (hdots : ".." ∉ pieces)
    (h : d.follow start pieces = some names) :
    names = start ++ pieces.filter fun piece => !Path.isIdle piece := by
  induction pieces generalizing start with
  | nil =>
    rw [follow, Option.some_inj] at h
    simp [h]
  | cons piece rest ih =>
    rw [List.mem_cons, not_or] at hdots
    rw [follow] at h
    split at h
    · cases h
    · split at h
      · next hidle =>
        rw [ih hdots.2 h, List.filter_cons_of_neg (by simp [hidle])]
      · next hidle =>
        rw [if_neg (Ne.symm hdots.1)] at h
        rw [ih hdots.2 h, List.filter_cons_of_pos (by simp [hidle]), List.append_assoc, List.singleton_append]

/-- The file at a path in normal form is the one with its names. -/
theorem readBytes?_eq (d : Disk) {p : Path} (h : ∀ piece ∈ p.pieces, Path.IsName piece) :
    d.readBytes? p = d.files[p.pieces]? := by
  unfold readBytes? resolve?
  cases hfile : d.files[p.pieces]? with
  | some content =>
    have hmem : [] ++ p.pieces ++ [] ∈ d.files := by
      rw [List.append_nil, List.nil_append, Std.ExtTreeMap.mem_iff_isSome_getElem?, hfile]
      rfl
    rw [follow_of_mem h hmem]
    exact hfile
  | none =>
    cases hfollow : d.follow [] p.pieces with
    | none => rfl
    | some names =>
      have hdots : ".." ∉ p.pieces := fun hmem => (h ".." hmem).2.1 rfl
      have hnames : names = p.pieces := by
        rw [eq_of_follow_eq_some hdots hfollow, List.nil_append]
        exact Path.names_eq_self h
      rw [hnames]
      exact hfile

theorem readText?_eq (d : Disk) {p : Path} (h : ∀ piece ∈ p.pieces, Path.IsName piece) :
    d.readText? p = (d.files[p.pieces]?).bind String.fromUTF8? := by
  unfold readText?
  rw [d.readBytes?_eq h]

end Disk

/-! ## Included paths -/

namespace Path

theorem trimIdle_eq_nil {pieces : List String} (h : ∀ piece ∈ pieces, isIdle piece = true) :
    trimIdle pieces = [] := by
  unfold trimIdle
  rw [List.dropWhile_eq_nil_iff.2 h]
  rfl

/-- Idle pieces at the end are dropped, and no others. -/
theorem trimIdle_append {pieces idle : List String} (hpieces : ∀ piece ∈ pieces, isIdle piece = false)
    (hidle : ∀ piece ∈ idle, isIdle piece = true) : trimIdle (pieces ++ idle) = pieces := by
  by_cases hnil : pieces = []
  · rw [hnil, List.nil_append, trimIdle_eq_nil hidle]
  · obtain ⟨first, rest, rfl⟩ := List.exists_cons_of_ne_nil hnil
    have hreverse : (idle.reverse ++ (first :: rest).reverse).dropWhile isIdle = (first :: rest).reverse := by
      apply Text.dropWhile_append_eq_right
      · exact fun piece hpiece => hidle piece (List.mem_reverse.1 hpiece)
      · intro piece hpiece
        exact hpieces piece (List.mem_reverse.1 (List.mem_of_mem_head? hpiece))
    unfold trimIdle
    rw [List.cons_append, List.dropWhile_cons_of_neg (by simp [hpieces first List.mem_cons_self]), ← List.cons_append,
      List.reverse_append, hreverse, List.reverse_reverse]

theorem trimIdle_eq_self {pieces : List String} (h : ∀ piece ∈ pieces, isIdle piece = false) :
    trimIdle pieces = pieces := by
  have htrimmed := trimIdle_append h (List.forall_mem_nil fun piece => isIdle piece = true)
  rwa [List.append_nil] at htrimmed

theorem relativePieces?_eq (names : List String) {pieces : List String}
    (h : ∀ piece ∈ pieces, isIdle piece = false) :
    relativePieces? names pieces = if names.isPrefixOf pieces then some (pieces.drop names.length) else none := by
  induction names generalizing pieces with
  | nil => simp [relativePieces?, trimIdle_eq_self h]
  | cons name rest ih =>
    cases pieces with
    | nil => rfl
    | cons piece others =>
      obtain ⟨hpiece, hothers⟩ := List.forall_mem_cons.1 h
      rw [relativePieces?, if_neg (by simp [hpiece])]
      by_cases hname : piece = name
      · simp [hname, ih hothers]
      · simp [hname, Ne.symm hname]

/-- Nothing is left of a path after its own names. -/
theorem relativePieces?_names (p : Path) : relativePieces? p.names p.pieces = some [] := by
  obtain ⟨pieces⟩ := p
  unfold names
  induction pieces with
  | nil => rfl
  | cons piece rest ih =>
    cases hidle : isIdle piece with
    | false => simp [relativePieces?, hidle, ih]
    | true =>
      rw [List.filter_cons_of_neg (by simp [hidle])]
      cases hnames : rest.filter fun piece => !isIdle piece with
      | nil =>
        have hall : ∀ other ∈ piece :: rest, isIdle other = true := by
          rw [List.filter_eq_nil_iff] at hnames
          rw [List.forall_mem_cons]
          refine ⟨hidle, ?_⟩
          intro other hother
          simpa using hnames other hother
        rw [relativePieces?, trimIdle_eq_nil hall]
      | cons name names =>
        simp only [hnames] at ih
        rw [relativePieces?, if_pos hidle, ih]

end Path

namespace Workspace

theorem isIncluded_eq (w : Workspace) {p : Path} (h : ∀ piece ∈ p.pieces, Path.IsName piece) :
    w.isIncluded p =
      (w.root.names.isPrefixOf p.pieces && w.selects ("/".intercalate (p.pieces.drop w.root.names.length))) := by
  unfold isIncluded Path.relativeTo?
  rw [Path.relativePieces?_eq _ fun piece hpiece => (h piece hpiece).1]
  cases w.root.names.isPrefixOf p.pieces with
  | false => rfl
  | true => rfl

theorem isIncluded_root (w : Workspace) : w.isIncluded w.root = w.selects "" := by
  unfold isIncluded Path.relativeTo?
  rw [Path.relativePieces?_names]
  rfl

theorem isIncluded_vacant (directory p : Path) : (vacant directory).isIncluded p = false := by
  unfold isIncluded
  cases p.relativeTo? (vacant directory).root with
  | none => rfl
  | some relative => rfl

/-! ## Rules for files -/

/-- The names of the entries that may rule out files. -/
def ruleNames : List String := [".ignore", ".gitignore", VersionControl.entryName]

end Workspace

/-- No entry that may rule out files lies in a directory of a project or in one above it. -/
def Disk.IsFreeOfRules (d : Disk) (root : List String) : Prop :=
  ∀ names ∈ d.files.keys, ∀ i < names.length, (names[i]?).any Workspace.ruleNames.contains = true →
    ¬ (names.take i <+: root ∨ root <+: names.take i)

instance (d : Disk) (root : List String) : Decidable (d.IsFreeOfRules root) :=
  inferInstanceAs (Decidable (∀ names ∈ d.files.keys, ∀ i < names.length, _ → ¬ (_ ∨ _)))

/-- The ignore file of the user rules out nothing below a directory. -/
def Disk.IsKeptByUser (d : Disk) (root : List String) : Prop :=
  ∀ relative, relative ≠ [] → ∀ isDirectory, d.isIgnoredByUser? (root ++ relative) isDirectory ≠ some true

namespace Workspace

variable {w : Workspace} {d : Disk}

theorem not_mem_files_of_isFreeOfRules {root : List String} (h : d.IsFreeOfRules root) {directory : List String}
    (hdirectory : directory <+: root ∨ root <+: directory) {name : String} (hname : name ∈ ruleNames)
    (rest : List String) : directory ++ name :: rest ∉ d.files := by
  intro hmem
  refine h _ (Std.ExtTreeMap.mem_keys.2 hmem) directory.length ?_ ?_ ?_
  · simp
  · simpa using hname
  · simpa using hdirectory

/-- Then no directory of the project has an ignore file of any kind. -/
theorem bytes?_eq_none {root : List String} (h : d.IsFreeOfRules root) {names : List String}
    (hnames : names <+: root ∨ root <+: names) (directory : Path) (kind : IgnoreKind) :
    kind.bytes? d directory names = none := by
  have hnone : ∀ name ∈ ruleNames, ∀ rest, d.files[names ++ name :: rest]? = none := by
    intro name hname rest
    rw [Std.ExtTreeMap.getElem?_eq_none]
    exact not_mem_files_of_isFreeOfRules h hnames hname rest
  cases kind with
  | general => exact hnone ".ignore" (by decide) []
  | versioned => exact hnone ".gitignore" (by decide) []
  | excluded =>
    have hentry : d.files.contains (names ++ [VersionControl.entryName]) = false := by
      rw [Std.ExtTreeMap.contains_eq_isSome_getElem?, hnone VersionControl.entryName (by decide) []]
      rfl
    unfold IgnoreKind.bytes? VersionControl.rulesBytes?
    rw [hentry]
    exact hnone VersionControl.entryName (by decide) VersionControl.rulesNames

theorem isIgnored_eq_false {root : List String} (h : d.IsFreeOfRules root) (hkept : d.IsKeptByUser root)
    {relative : List String} (hne : relative ≠ []) (isDirectory : Bool) :
    w.isIgnored d (root ++ relative) isDirectory = false := by
  have hnone : ∀ kind depth, (kind : IgnoreKind).bytes? d w.directory ((root ++ relative).take depth) = none := by
    intro kind depth
    apply bytes?_eq_none h
    exact List.prefix_or_prefix_of_prefix (List.take_prefix depth _) (List.prefix_append root relative)
  have hsilent : ignoreKinds.findSome? (fun kind =>
      (List.range (root ++ relative).length).reverse.findSome? fun depth =>
        (kind.bytes? d w.directory ((root ++ relative).take depth)).bind fun bytes =>
          IgnoreRules.isIgnored? (IgnoreRules.ofBytes bytes)
            ("/".intercalate ((root ++ relative).drop depth)).toList isDirectory) = none := by
    rw [List.findSome?_eq_none_iff]
    intro kind _
    rw [List.findSome?_eq_none_iff]
    intro depth _
    rw [hnone, Option.bind_none]
  unfold isIgnored
  simp only [hsilent]
  exact decide_eq_false (hkept relative hne isDirectory)

/-- Every file below the root is found. -/
theorem isReached_eq_true {root : List String} (h : d.IsFreeOfRules root) (hkept : d.IsKeptByUser root)
    {relative : List String} (hmem : root ++ relative ∈ d.files) : w.isReached d root relative = true := by
  have hentry : relative.contains VersionControl.entryName = false := by
    rw [Bool.eq_false_iff]
    intro hcontains
    obtain ⟨before, after, rfl⟩ := List.append_of_mem (List.contains_iff_mem.1 hcontains)
    rw [← List.append_assoc] at hmem
    exact not_mem_files_of_isFreeOfRules h (.inr (List.prefix_append root before)) (by decide) after hmem
  unfold isReached
  rw [hentry, Bool.not_false, Bool.true_and, List.all_eq_true]
  intro i hi
  have hne : relative.take (i + 1) ≠ [] := by
    rw [ne_eq, List.take_eq_nil_iff]
    rintro (hzero | rfl)
    · exact Nat.succ_ne_zero i hzero
    · exact absurd (List.mem_range.1 hi) (Nat.not_lt_zero i)
  rw [isIgnored_eq_false h hkept hne]
  rfl

/-! ## Discovered files -/

/-- A root as it is kept: idle pieces are dropped, but not a slash at the end, with which the root may not be a file. -/
structure HasTidyRoot (w : Workspace) (d : Disk) : Prop where
  pieces : w.root.pieces = w.root.names ∨ w.root.pieces = w.root.names ++ [""]
  slashed : w.root.pieces.getLast? = some "" → w.root.names ∉ d.files

theorem absolute?_of_create {directory : Path} {root : String} {settings : Settings}
    (h : create directory root settings = .ok w) : Path.absolute? directory root = some w.root := by
  unfold create at h
  split at h
  · cases h
  · next absolute habsolute =>
    cases hincludes : readGlobs settings.includePatterns with
    | error fault =>
      rw [hincludes] at h
      cases h
    | ok includes =>
      cases hexcludes : readGlobs settings.excludePatterns with
      | error fault =>
        rw [hincludes, hexcludes] at h
        cases h
      | ok excludes =>
        rw [hincludes, hexcludes] at h
        cases h
        exact habsolute

theorem root_pieces_of_create {directory : Path} {root : String} {settings : Settings}
    (h : create directory root settings = .ok w) :
    w.root.pieces = w.root.names ∨ w.root.pieces = w.root.names ++ [""] := by
  have habsolute := absolute?_of_create h
  unfold Path.absolute? at habsolute
  split at habsolute
  · cases habsolute
  · rw [← Option.some.inj habsolute]
    split
    · right
      simp [Path.names, Path.isIdle]
    · left
      simp [Path.names]

/-- No piece of a root holds a slash, if no piece of the path that is read for it does. -/
theorem slash_not_mem_of_absolute? {directory root : Path} {text : String}
    (h : Path.absolute? directory text = some root)
    (hread : ∀ piece ∈ (Path.ofTextIn directory text).pieces, '/' ∉ piece.toList) :
    ∀ piece ∈ root.pieces, '/' ∉ piece.toList := by
  unfold Path.absolute? at h
  split at h
  · cases h
  · rw [← Option.some.inj h]
    intro piece hpiece
    rcases List.mem_append.1 hpiece with hname | hend
    · exact hread piece (List.mem_filter.1 hname).1
    · split at hend
      · rw [List.mem_singleton.1 hend]
        exact List.not_mem_nil
      · cases hend

/-- No piece of a root that was given as a path holds a slash. -/
theorem slash_not_mem_root_of_create {directory root : Path} {settings : Settings}
    (h : create directory root.text settings = .ok w) : ∀ piece ∈ w.root.pieces, '/' ∉ piece.toList := by
  obtain ⟨q, hread, hslash⟩ := root.exists_ofText?_text
  apply slash_not_mem_of_absolute? (absolute?_of_create h)
  unfold Path.ofTextIn
  rw [hread]
  exact hslash

/-- No piece of any root holds a slash, if none of the directory does. -/
theorem slash_not_mem_root_of_create_in {directory : Path} {root : String} {settings : Settings}
    (h : create directory root settings = .ok w) (hdirectory : ∀ piece ∈ directory.pieces, '/' ∉ piece.toList) :
    ∀ piece ∈ w.root.pieces, '/' ∉ piece.toList :=
  slash_not_mem_of_absolute? (absolute?_of_create h) (Path.slash_not_mem_ofTextIn hdirectory root)

/-- The path of the file to which some names lead from a root. -/
def pathBelow (root : Path) (relative : List String) : Path :=
  if relative.isEmpty then root else ⟨root.names ++ relative⟩

/-- The files of a project are those that are reached and included. -/
theorem mem_discover_iff (w : Workspace) (d : Disk) (file : ProjectFile) :
    file ∈ w.discover d ↔
      ∃ base relative content, d.resolve? w.root = some base ∧ d.files[base ++ relative]? = some content ∧
        (w.isReached d base relative && w.isIncluded (pathBelow w.root relative)) = true ∧
        file = ⟨relative, pathBelow w.root relative, content⟩ := by
  unfold discover
  cases hbase : d.resolve? w.root with
  | none => simp
  | some base =>
    simp only [List.mem_filterMap, Option.some_inj]
    constructor
    · rintro ⟨⟨names, content⟩, hkey, hfound⟩
      simp only at hfound
      split at hfound
      · next hbelow =>
        obtain ⟨relative, rfl⟩ := List.isPrefixOf_iff_prefix.1 hbelow
        rw [List.drop_left] at hfound
        change (if (w.isReached d base relative && w.isIncluded (pathBelow w.root relative)) = true then
          some ⟨relative, pathBelow w.root relative, content⟩ else none) = some file at hfound
        split at hfound
        · next hcounts =>
          exact ⟨base, relative, content, rfl, Std.ExtTreeMap.mem_toList_iff_getElem?_eq_some.1 hkey, hcounts,
            (Option.some.inj hfound).symm⟩
        · cases hfound
      · cases hfound
    · rintro ⟨_, relative, content, rfl, hcontent, hcounts, rfl⟩
      refine ⟨(base ++ relative, content), Std.ExtTreeMap.mem_toList_iff_getElem?_eq_some.2 hcontent, ?_⟩
      have hbelow : base.isPrefixOf (base ++ relative) = true :=
        List.isPrefixOf_iff_prefix.2 (List.prefix_append base relative)
      simp only [hbelow, if_true, List.drop_left]
      exact if_pos hcounts

theorem discover_vacant (directory : Path) (d : Disk) : (vacant directory).discover d = [] := by
  rw [List.eq_nil_iff_forall_not_mem]
  intro file hfile
  obtain ⟨_, _, _, _, _, hcounts, _⟩ := (mem_discover_iff _ d file).1 hfile
  rw [isIncluded_vacant, Bool.and_false] at hcounts
  cases hcounts

/-- The path of a discovered file has the names of the root and those below it. -/
theorem names_pathBelow {root : Path} {relative : List String} (h : ∀ name ∈ relative, Path.IsName name) :
    (pathBelow root relative).names = root.names ++ relative := by
  have hrelative : Path.names ⟨relative⟩ = relative := Path.names_eq_self h
  unfold pathBelow
  cases hempty : relative.isEmpty with
  | true =>
    rw [List.isEmpty_iff.1 hempty, List.append_nil]
    rfl
  | false =>
    unfold Path.names at hrelative ⊢
    simp only [Bool.false_eq_true, if_false, List.filter_append, List.filter_filter, Bool.and_self, hrelative]

theorem slash_not_mem_of_mem_discover (hnames : d.HasNames) (hroot : ∀ piece ∈ w.root.pieces, '/' ∉ piece.toList)
    {file : ProjectFile} (hfile : file ∈ w.discover d) : ∀ name ∈ file.path.names, '/' ∉ name.toList := by
  obtain ⟨base, relative, content, _, hcontent, _, rfl⟩ := (mem_discover_iff w d file).1 hfile
  have hrelative : ∀ name ∈ relative, Path.IsName name := by
    intro name hname
    exact hnames.isName hcontent name (List.mem_append_right base hname)
  rw [names_pathBelow hrelative]
  intro name hname
  rcases List.mem_append.1 hname with hname | hname
  · exact hroot name (List.mem_filter.1 hname).1
  · exact (hrelative name hname).2.2

theorem isIncluded_pathBelow {relative : List String} (h : ∀ name ∈ w.root.names ++ relative, Path.IsName name) :
    w.isIncluded (pathBelow w.root relative) = w.isIncluded ⟨w.root.names ++ relative⟩ := by
  unfold pathBelow
  cases hempty : relative.isEmpty with
  | true =>
    rw [List.isEmpty_iff] at hempty
    subst hempty
    rw [if_pos rfl, isIncluded_root, isIncluded_eq w h]
    simp
  | false => rfl

/-- What is discovered under the names of a path in normal form exists there and is included. -/
theorem of_mem_discover (hnames : d.HasNames) {p : Path} (hp : ∀ piece ∈ p.pieces, Path.IsName piece)
    {file : ProjectFile} (hfile : file ∈ w.discover d) (hpath : file.path.names = p.pieces) :
    d.files[p.pieces]? = some file.content ∧ w.isIncluded p = true := by
  obtain ⟨base, relative, content, hbase, hcontent, hcounts, rfl⟩ := (mem_discover_iff w d file).1 hfile
  have hrelative : ∀ name ∈ relative, Path.IsName name := by
    intro name hname
    exact hnames.isName hcontent name (List.mem_append_right base hname)
  simp only [names_pathBelow hrelative] at hpath
  obtain ⟨pieces⟩ := p
  subst hpath
  -- The names of the root are among those of the path, so nothing leads back on the way to the root.
  have hdots : ".." ∉ w.root.pieces := by
    intro hmem
    have hname : ".." ∈ w.root.names := List.mem_filter.2 ⟨hmem, rfl⟩
    exact (hp ".." (List.mem_append_left relative hname)).2.1 rfl
  have hroot : base = w.root.names := Disk.eq_of_follow_eq_some hdots hbase
  rw [isIncluded_pathBelow hp] at hcounts
  rw [hroot] at hcontent
  exact ⟨hcontent, (Bool.and_eq_true_iff.1 hcounts).2⟩

/-- The root is found where its names lead, if there is a file below it. -/
theorem resolve?_root (htidy : w.HasTidyRoot d) {relative : List String}
    (h : ∀ name ∈ w.root.names, Path.IsName name) (hmem : w.root.names ++ relative ∈ d.files) :
    d.resolve? w.root = some w.root.names := by
  have hfollow : d.follow [] w.root.names = some w.root.names := Disk.follow_of_mem h (by simpa using hmem)
  unfold Disk.resolve?
  rcases htidy.pieces with hpieces | hpieces
  · rw [hpieces, hfollow]
  · have hdirectory : d.isDirectory w.root.names = true := by
      cases relative with
      | nil =>
        rw [List.append_nil] at hmem
        exact absurd hmem (htidy.slashed (by rw [hpieces]; simp))
      | cons name rest => exact Disk.isDirectory_of_mem hmem
    rw [hpieces, Disk.follow_append, hfollow, Option.bind_some, Disk.follow, hdirectory]
    rfl

/-- What exists and is included is discovered, where no ignore file has a say. -/
theorem exists_mem_discover (hfree : d.IsFreeOfRules w.root.names) (hkept : d.IsKeptByUser w.root.names)
    (htidy : w.HasTidyRoot d) {p : Path} (hp : ∀ piece ∈ p.pieces, Path.IsName piece) {content : ByteArray}
    (hcontent : d.files[p.pieces]? = some content) (hincluded : w.isIncluded p = true) :
    ∃ file ∈ w.discover d, file.path.names = p.pieces := by
  obtain ⟨pieces⟩ := p
  have hbelow := (Bool.and_eq_true_iff.1 (w.isIncluded_eq hp ▸ hincluded)).1
  obtain ⟨relative, rfl⟩ := List.isPrefixOf_iff_prefix.1 hbelow
  have hmem : w.root.names ++ relative ∈ d.files := by
    rw [Std.ExtTreeMap.mem_iff_isSome_getElem?, hcontent]
    rfl
  have hrelative : ∀ name ∈ relative, Path.IsName name := fun name hname => hp name (List.mem_append_right _ hname)
  have hresolved := resolve?_root htidy (fun name hname => hp name (List.mem_append_left relative hname)) hmem
  refine ⟨⟨relative, pathBelow w.root relative, content⟩, ?_, names_pathBelow hrelative⟩
  refine (mem_discover_iff w d _).2 ⟨w.root.names, relative, content, hresolved, hcontent, ?_, rfl⟩
  rw [isReached_eq_true hfree hkept hmem, isIncluded_pathBelow hp, hincluded, Bool.and_self]

/-! ## Loading -/

/-- The index after a file of the project has been taken in, if it holds text. -/
def loadFile (x : Index) (file : ProjectFile) : Index :=
  match String.fromUTF8? file.content with
  | some text => x.load (Locator.uriOfPath file.path) text
  | none => x

theorem loadInto_fst (w : Workspace) (d : Disk) (x : Index) : (w.loadInto d x).1 = (w.discover d).foldl loadFile x := by
  unfold loadInto
  refine (List.foldl_hom Prod.fst ?_).symm
  rintro ⟨y, count⟩ file
  unfold loadFile
  cases String.fromUTF8? file.content with
  | none => rfl
  | some text => rfl

@[simp] theorem options_loadFile (x : Index) (file : ProjectFile) : (loadFile x file).options = x.options := by
  unfold loadFile
  split
  · exact x.options_load _ _
  · rfl

/-- Where all files with a uri have the same text, the record of the uri is that of this text, if there is such a
file. -/
theorem file?_foldl_loadFile {files : List ProjectFile} (x : Index) {uri : String} {text? : Option String}
    (h : ∀ file ∈ files, Locator.uriOfPath file.path = uri → String.fromUTF8? file.content = text?) :
    (files.foldl loadFile x).file? uri =
      if ∃ file ∈ files, Locator.uriOfPath file.path = uri then (text?.map (x.recordOf uri)).or (x.file? uri)
      else x.file? uri := by
  induction files generalizing x with
  | nil => simp
  | cons file rest ih =>
    obtain ⟨hfile, hrest⟩ := List.forall_mem_cons.1 h
    have hrecord : (loadFile x file).recordOf uri = x.recordOf uri :=
      congrFun (Index.recordOf_congr (options_loadFile x file)) uri
    rw [List.foldl_cons, ih _ hrest, hrecord]
    by_cases huri : Locator.uriOfPath file.path = uri
    · have hloaded : (loadFile x file).file? uri = (text?.map (x.recordOf uri)).or (x.file? uri) := by
        unfold loadFile
        rw [hfile huri]
        cases text? with
        | none => rfl
        | some text => simp [Index.file?_load, huri]
      have hexists : ∃ file' ∈ file :: rest, Locator.uriOfPath file'.path = uri := ⟨file, List.mem_cons_self, huri⟩
      rw [if_pos hexists, hloaded]
      split
      · cases text? with
        | none => rfl
        | some text => rfl
      · rfl
    · have hkept : (loadFile x file).file? uri = x.file? uri := by
        unfold loadFile
        split
        · rw [Index.file?_load, if_neg huri]
        · rfl
      simp [hkept, huri]

/-- After the files of a project have been taken in, a new index holds the record of each included text on the disk, and
of no other file in normal form. -/
theorem file?_loadInto (options : Options) (hnames : d.HasNames) (hfree : d.IsFreeOfRules w.root.names)
    (hkept : d.IsKeptByUser w.root.names) (htidy : w.HasTidyRoot d) {p : Path}
    (hp : ∀ piece ∈ p.pieces, Path.IsName piece) :
    (w.loadInto d (Index.empty options)).1.file? (Locator.uriOfPath p) =
      (if w.isIncluded p then d.readText? p else none).map
        ((Index.empty options).recordOf (Locator.uriOfPath p)) := by
  have hsame : ∀ file ∈ w.discover d, Locator.uriOfPath file.path = Locator.uriOfPath p →
      d.files[p.pieces]? = some file.content ∧ w.isIncluded p = true := by
    intro file hfile huri
    apply of_mem_discover hnames hp hfile
    rw [Locator.names_eq_of_uriOfPath_eq huri, Path.names_eq_self hp]
  have htext : ∀ file ∈ w.discover d, Locator.uriOfPath file.path = Locator.uriOfPath p →
      String.fromUTF8? file.content = if w.isIncluded p then d.readText? p else none := by
    intro file hfile huri
    obtain ⟨hcontent, hincluded⟩ := hsame file hfile huri
    rw [if_pos hincluded, d.readText?_eq hp, hcontent, Option.bind_some]
  rw [loadInto_fst, file?_foldl_loadFile _ htext, Index.file?_empty, Option.or_none]
  split
  · rfl
  · next hnone =>
    have habsent : (if w.isIncluded p then d.readText? p else none) = none := by
      split
      · next hincluded =>
        rw [d.readText?_eq hp]
        cases hcontent : d.files[p.pieces]? with
        | none => rfl
        | some content =>
          obtain ⟨file, hfile, hpath⟩ := exists_mem_discover hfree hkept htidy hp hcontent hincluded
          rw [← Path.names_eq_self hp] at hpath
          exact absurd ⟨file, hfile, Locator.uriOfPath_congr hpath⟩ hnone
      · rfl
    rw [habsent]
    rfl

end Workspace

end Traceability
