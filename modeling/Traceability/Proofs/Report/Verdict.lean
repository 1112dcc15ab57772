import Traceability.CommandLine
import Traceability.Proofs.Index.Flawless
import Traceability.Proofs.Workspace.Creation
import Traceability.Proofs.Workspace.Texts
set_option autoImplicit false

/-!
# The verdict on a project

A check reads the texts of a project, and what it reports are the findings that these texts give, each with the severity
that the settings give to its category.  So whether the check fails can be told from the texts and the settings alone.
-/

namespace Traceability

namespace Workspace

/-- Whatever is loaded, the findings are those that the texts give. -/
theorem mem_validateAll_loadInto_iff {d : Disk} (hnames : d.HasNames) (w : Workspace) (options : Options)
    (uri : String) (findings : List Finding) :
    (uri, findings) ∈ (w.loadInto d (Index.empty options)).1.validateAll.2 ↔
      ∃ text, (uri, text) ∈ w.texts d ∧ findings = Index.expectedFindings options (w.texts d) uri text := by
  have hnodup := nodup_uris_texts hnames w
  have hcoherent := (Index.coherent_empty options).callAll (FileCall.loads (w.texts d))
  have hassembled := Index.assembledFrom_liveTexts options (FileCall.loads (w.texts d))
  rw [FileCall.liveTexts_loads hnodup] at hassembled
  have hready : ∀ x : Index, x.validateAll.1.revalidate uri = x.revalidate uri := fun _ => rfl
  rw [loadInto_fst_eq, Index.mem_validateAll_iff, hready, hassembled.revalidate hcoherent, Index.options_callAll,
    Option.map_eq_some_iff]
  refine exists_congr fun text => ?_
  rw [lookup_eq_some_iff_mem hnodup, eq_comm (a := findings)]
  rfl

end Workspace

namespace Report

/-! ## Counting -/

theorem errors_add_warnings (r : Report) : r.errors + r.warnings = r.findings.length := by
  have hsplit := List.length_eq_length_filter_add (l := r.findings) fun f => decide (f.severity = .error)
  have hwarning : r.findings.filter (fun f => !decide (f.severity = .error)) =
      r.findings.filter fun f => decide (f.severity = .warning) := by
    apply List.filter_congr
    intro f _
    cases f.severity with
    | error => rfl
    | warning => rfl
  rw [hwarning] at hsplit
  exact hsplit.symm

theorem hasErrors_iff (r : Report) : r.hasErrors = true ↔ ∃ f ∈ r.findings, f.severity = .error := by
  unfold hasErrors errors count
  rw [decide_eq_true_iff, List.length_pos_iff_exists_mem]
  simp only [List.mem_filter, decide_eq_true_iff]

/-! ## Findings -/

/-- A finding is an error if findings of its category are not demoted, and not all findings are. -/
theorem severity_ofSettings_eq_error_iff (settings : Settings) (uri : String) (c : Category) :
    (SeverityPolicy.ofSettings settings).severity uri c = .error ↔
      settings.demoteErrors = false ∧ c ∉ settings.warningCategories := by
  have hnone : (∅ : Std.ExtTreeSet String).contains uri = false := Std.ExtTreeSet.contains_empty
  unfold SeverityPolicy.ofSettings SeverityPolicy.severity
  simp [hnone]

section Workspace

variable {d : Disk} {w : Workspace} {settings : Settings}

/-- What is reported are the findings that the texts give. -/
theorem mem_findings_ofWorkspace_iff (hnames : d.HasNames) (reported : ReportedFinding) :
    reported ∈ (ofWorkspace d w settings).findings ↔
      ∃ live ∈ w.texts d, ∃ f ∈ Index.expectedFindings settings.options (w.texts d) live.1 live.2,
        reported = ⟨shownPath w.root live.1, (SeverityPolicy.ofSettings settings).severity live.1 f.category, f⟩ := by
  unfold ofWorkspace
  simp only [List.mem_flatMap, List.mem_map]
  constructor
  · rintro ⟨⟨uri, findings⟩, hitem, f, hf, rfl⟩
    obtain ⟨text, htext, rfl⟩ := (w.mem_validateAll_loadInto_iff hnames settings.options uri findings).1 hitem
    exact ⟨(uri, text), htext, f, hf, rfl⟩
  · rintro ⟨⟨uri, text⟩, htext, f, hf, rfl⟩
    exact ⟨(uri, _), (w.mem_validateAll_loadInto_iff hnames settings.options uri _).2 ⟨text, htext, rfl⟩, f, hf, rfl⟩

theorem hasErrors_ofWorkspace_iff (hnames : d.HasNames) :
    (ofWorkspace d w settings).hasErrors = true ↔
      settings.demoteErrors = false ∧ ∃ live ∈ w.texts d,
        ∃ f ∈ Index.expectedFindings settings.options (w.texts d) live.1 live.2,
          f.category ∉ settings.warningCategories := by
  rw [hasErrors_iff]
  constructor
  · rintro ⟨reported, hreported, herror⟩
    obtain ⟨live, hlive, f, hf, rfl⟩ := (mem_findings_ofWorkspace_iff hnames reported).1 hreported
    obtain ⟨hdemote, hcategory⟩ := (severity_ofSettings_eq_error_iff settings live.1 f.category).1 herror
    exact ⟨hdemote, live, hlive, f, hf, hcategory⟩
  · rintro ⟨hdemote, live, hlive, f, hf, hcategory⟩
    exact ⟨_, (mem_findings_ofWorkspace_iff hnames _).2 ⟨live, hlive, f, hf, rfl⟩,
      (severity_ofSettings_eq_error_iff settings live.1 f.category).2 ⟨hdemote, hcategory⟩⟩

theorem findings_ofWorkspace_eq_nil_iff (hnames : d.HasNames) :
    (ofWorkspace d w settings).findings = [] ↔ Index.IsFlawless settings.options (w.texts d) := by
  rw [← Index.forall_expectedFindings_eq_nil_iff (Workspace.nodup_uris_texts hnames w)]
  simp only [List.eq_nil_iff_forall_not_mem, mem_findings_ofWorkspace_iff hnames]
  constructor
  · intro hnone live hlive f hf
    exact hnone _ ⟨live, hlive, f, hf, rfl⟩
  · rintro hnone reported ⟨live, hlive, f, hf, _⟩
    exact hnone live hlive f hf

end Workspace

end Report

/-! ## Exit codes -/

/-- Where a check looks for the settings: in the file that is named, or else below the root. -/
def CommandLine.settingsPath (directory : Path) (root : String) : Option String → Path
  | some path => Path.ofTextIn directory path
  | none => Settings.pathBelow (Path.ofTextIn directory root)

/-- A check that gets as far as a report fails just if the report has errors. -/
theorem CommandLine.exitCode_check {d : Disk} {directory : Path} {root path : Option String} {settings : Settings}
    {r : Report}
    (hload : Settings.load d (settingsPath directory (root.getD (projectRoot d directory).text) path) = .ok settings)
    (hreport : Report.ofProject d directory (root.getD (projectRoot d directory).text) settings = .ok r)
    (format : ReportFormat) : (check d directory root path format).exitCode = if r.hasErrors then 1 else 0 := by
  unfold check
  cases path with
  | none =>
    simp only [settingsPath] at hload
    simp only [hload, hreport]
    rfl
  | some path =>
    simp only [settingsPath] at hload
    simp only [hload, hreport]
    rfl

/-! ## Projects -/

namespace Report

/-- Every project whose patterns can be read has a report.  Each finding in it is an error or a warning; there is an error
just if findings are not demoted altogether and some discovered text has one whose category is not demoted; there is no
finding at all just if the project is flawless; and the exit code tells whether there are errors.  So where nothing is
demoted, a check succeeds just on flawless projects. -/
theorem verdict_of_texts (d : Disk) (directory : Path) (root : String) (settings : Settings) (hroot : root ≠ "")
    (hnames : d.HasNames) (hglobs : settings.hasValidGlobs = true) :
    ∃ w r, Workspace.create directory root settings = .ok w ∧ ofProject d directory root settings = .ok r ∧
      r.errors + r.warnings = r.findings.length ∧
      (r.hasErrors = true ↔ settings.demoteErrors = false ∧
        ∃ file ∈ w.discover d, ∃ text, String.fromUTF8? file.content = some text ∧
          ∃ f ∈ Index.expectedFindings settings.options (w.texts d) (Locator.uriOfPath file.path) text,
            f.category ∉ settings.warningCategories) ∧
      (r.findings = [] ↔ Index.IsFlawless settings.options (w.texts d)) ∧
      (settings.demoteErrors = false → settings.warningCategories = [] → (r.hasErrors = false ↔ r.findings = [])) ∧
      ∀ root? path? format, root?.getD (CommandLine.projectRoot d directory).text = root →
        Settings.load d (CommandLine.settingsPath directory root path?) = .ok settings →
          (CommandLine.check d directory root? path? format).exitCode = if r.hasErrors then 1 else 0 := by
  have hvalid : (Workspace.create directory root settings).isOk = true := by
    rw [Workspace.isOk_create, hglobs, Bool.and_true]
    simpa using hroot
  obtain ⟨w, hw⟩ := Workspace.exists_eq_ok hvalid
  have hreport : ofProject d directory root settings = .ok (ofWorkspace d w settings) := by
    unfold ofProject
    rw [hw]
    rfl
  refine ⟨w, _, hw, hreport, errors_add_warnings _, ?_, findings_ofWorkspace_eq_nil_iff hnames, ?_, ?_⟩
  · rw [hasErrors_ofWorkspace_iff hnames]
    refine and_congr_right fun _ => ?_
    constructor
    · rintro ⟨live, hlive, hfinding⟩
      obtain ⟨file, hfile, htext⟩ := List.mem_filterMap.1 hlive
      obtain ⟨text, hread, rfl⟩ := Option.map_eq_some_iff.1 htext
      exact ⟨file, hfile, text, hread, hfinding⟩
    · rintro ⟨file, hfile, text, hread, hfinding⟩
      refine ⟨(Locator.uriOfPath file.path, text), List.mem_filterMap.2 ⟨file, hfile, ?_⟩, hfinding⟩
      unfold ProjectFile.text?
      rw [hread]
      rfl
  · intro hdemote hcategories
    have herror : ∀ uri c, (SeverityPolicy.ofSettings settings).severity uri c = .error := by
      intro uri c
      rw [severity_ofSettings_eq_error_iff, hcategories]
      exact ⟨hdemote, List.not_mem_nil⟩
    rw [Bool.eq_false_iff, ne_eq, hasErrors_iff, List.eq_nil_iff_forall_not_mem]
    constructor
    · intro hnone reported hreported
      obtain ⟨live, _, f, _, rfl⟩ := (mem_findings_ofWorkspace_iff hnames reported).1 hreported
      exact hnone ⟨_, hreported, herror live.1 f.category⟩
    · rintro hnone ⟨reported, hreported, _⟩
      exact hnone reported hreported
  · rintro root? path? format rfl hload
    exact CommandLine.exitCode_check hload hreport format

/-- A project of one document and one file that implements it. -/
theorem verdict_of_linked_project :
    let d : Disk :=
      { files := .ofList
          [(["p", "a.shalldn"], "# *x*\n\n**A** The x **shall** go.\n".toUTF8),
            (["p", "b.rs"], "// $$Implements A\n".toUTF8)] }
    "/p" ≠ "" ∧ d.HasNames ∧ Settings.hasValidGlobs {} = true ∧
      ∃ w r, Workspace.create ⟨["p"]⟩ "/p" {} = .ok w ∧ ofProject d ⟨["p"]⟩ "/p" {} = .ok r ∧
        r.errors + r.warnings = r.findings.length ∧
        (r.findings = [] ↔ Index.IsFlawless (Settings.options {}) (w.texts d)) ∧
        (r.hasErrors = false ↔ r.findings = []) ∧
        (CommandLine.check d ⟨["p"]⟩ (some "/p") none .text).exitCode = if r.hasErrors then 1 else 0 := by
  intro d
  have hroot : "/p" ≠ "" := by
    decide
  have hnames : d.HasNames := by
    decide +kernel
  have hload : Settings.load d (CommandLine.settingsPath ⟨["p"]⟩ "/p" none) = .ok {} := by
    decide +kernel
  obtain ⟨w, r, hw, hr, hcount, _, hflawless, hempty, hexit⟩ := verdict_of_texts d ⟨["p"]⟩ "/p" {} hroot hnames
    Settings.hasValidGlobs_standard
  exact ⟨hroot, hnames, Settings.hasValidGlobs_standard, w, r, hw, hr, hcount, hflawless, hempty rfl rfl,
    hexit (some "/p") none .text rfl hload⟩

/-- The check of such a project succeeds; without the implementation it does not. -/
example :
    let document := "# *x*\n\n**A** The x **shall** go.\n".toUTF8
    let d : Disk := { files := .ofList [(["p", "a.shalldn"], document)] }
    (CommandLine.check (d.write ["p", "b.rs"] "// $$Implements A\n".toUTF8) ⟨["p"]⟩ none none .text).exitCode = 0 ∧
      (CommandLine.check d ⟨["p"]⟩ none none .text).exitCode = 1 := by
  decide +kernel

end Report

end Traceability
