import Traceability.Proofs.Index.History
import Traceability.Proofs.Workspace.Discovery
set_option autoImplicit false

/-!
# The texts of a project

Reading the files of a project into an index is loading their texts, one after the other, in the order in which the files
are discovered.  No two files have the same uri, so each of these texts still counts in the end.
-/

namespace Traceability

namespace FileCall

/-- The calls that load some texts, one after the other. -/
def loads (texts : List (String × String)) : List FileCall := texts.map fun live => .load live.1 live.2

theorem loads_append (texts later : List (String × String)) : loads (texts ++ later) = loads texts ++ loads later :=
  List.map_append

/-- Where no two texts are those of the same file, all of them count in the end. -/
theorem liveTexts_loads {texts : List (String × String)} (h : (texts.map Prod.fst).Nodup) :
    liveTexts (loads texts) = texts := by
  induction texts using List.reverseRecOn with
  | nil => rfl
  | append_singleton texts live ih =>
    rw [List.map_append, List.nodup_append] at h
    obtain ⟨htexts, _, hlive⟩ := h
    have hothers : texts.filter (fun earlier => !(earlier.1 == live.1)) = texts := by
      rw [List.filter_eq_self]
      intro earlier hearlier
      have hne : earlier.1 ≠ live.1 := hlive _ (List.mem_map_of_mem hearlier) _ (by simp)
      simpa using hne
    have hlast : loads [live] = [.load live.1 live.2] := rfl
    rw [loads_append, hlast, liveTexts_concat_of_text? rfl, ih htexts, hothers]

end FileCall

/-- Where no two texts are those of the same file, each is the one that is found for its file. -/
theorem lookup_eq_some_iff_mem {texts : List (String × String)} (h : (texts.map Prod.fst).Nodup)
    (uri text : String) : texts.lookup uri = some text ↔ (uri, text) ∈ texts := by
  induction texts with
  | nil => simp
  | cons live rest ih =>
    rw [List.map_cons, List.nodup_cons] at h
    obtain ⟨hlive, hrest⟩ := h
    rw [List.lookup_cons, List.mem_cons]
    by_cases huri : uri = live.1
    · subst huri
      have hnot : (live.1, text) ∉ rest := fun hmem => hlive (List.mem_map.2 ⟨_, hmem, rfl⟩)
      simp [hnot, Prod.ext_iff, eq_comm]
    · have hmiss : (uri == live.1) = false := beq_false_of_ne huri
      have hne : (uri, text) ≠ live := fun heq => huri (congrArg Prod.fst heq)
      simp [hmiss, hne, ih hrest]

/-- The text of a file with the uri of the file.  Bytes that are not UTF-8 are no text. -/
def ProjectFile.text? (file : ProjectFile) : Option (String × String) :=
  (String.fromUTF8? file.content).map fun text => (Locator.uriOfPath file.path, text)

namespace Workspace

/-- The texts of the files of a project. -/
def texts (w : Workspace) (d : Disk) : List (String × String) := (w.discover d).filterMap ProjectFile.text?

theorem mem_texts_iff (w : Workspace) (d : Disk) (live : String × String) :
    live ∈ w.texts d ↔
      ∃ file ∈ w.discover d, ∃ text, String.fromUTF8? file.content = some text ∧
        live = (Locator.uriOfPath file.path, text) := by
  unfold texts ProjectFile.text?
  simp only [List.mem_filterMap, Option.map_eq_some_iff, eq_comm (b := live)]

/-- Taking in a file is loading its text, if it has one. -/
theorem loadFile_eq (x : Index) (file : ProjectFile) :
    loadFile x file = x.callAll (FileCall.loads file.text?.toList) := by
  unfold loadFile ProjectFile.text?
  cases String.fromUTF8? file.content with
  | none => rfl
  | some text => rfl

theorem foldl_loadFile_eq (files : List ProjectFile) (x : Index) :
    files.foldl loadFile x = x.callAll (FileCall.loads (files.filterMap ProjectFile.text?)) := by
  induction files generalizing x with
  | nil => rfl
  | cons file rest ih =>
    have hsplit : (file :: rest).filterMap ProjectFile.text? =
        file.text?.toList ++ rest.filterMap ProjectFile.text? := by
      rw [List.filterMap_cons]
      cases file.text? with
      | none => rfl
      | some live => rfl
    rw [List.foldl_cons, ih, loadFile_eq, hsplit, FileCall.loads_append, Index.callAll_append]

/-- The files of a project are read by loading their texts. -/
theorem loadInto_fst_eq (w : Workspace) (d : Disk) (x : Index) :
    (w.loadInto d x).1 = x.callAll (FileCall.loads (w.texts d)) := by
  rw [loadInto_fst, foldl_loadFile_eq]
  rfl

/-- The file under some names below those to which the root leads, if it counts. -/
def found? (w : Workspace) (d : Disk) (base : List String) (entry : List String × ByteArray) : Option ProjectFile :=
  if base.isPrefixOf entry.1 then
    let relative := entry.1.drop base.length
    let path := pathBelow w.root relative
    if w.isReached d base relative && w.isIncluded path then some { relative, path, content := entry.2 } else none
  else none

theorem discover_eq (w : Workspace) (d : Disk) :
    w.discover d = (d.resolve? w.root).elim [] fun base => d.files.toList.filterMap (w.found? d base) := by
  unfold discover
  cases d.resolve? w.root with
  | none => rfl
  | some base => rfl

theorem of_found? {w : Workspace} {d : Disk} {base : List String} {entry : List String × ByteArray}
    {file : ProjectFile} (h : w.found? d base entry = some file) :
    ∃ relative, entry.1 = base ++ relative ∧ file.path = pathBelow w.root relative := by
  unfold found? at h
  split at h
  · next hbelow =>
    obtain ⟨relative, hrelative⟩ := List.isPrefixOf_iff_prefix.1 hbelow
    rw [← hrelative, List.drop_left] at h
    simp only at h
    split at h
    · exact ⟨relative, hrelative.symm, (congrArg ProjectFile.path (Option.some.inj h)).symm⟩
    · cases h
  · cases h

/-- No two files of a project have the same uri: the names below the root tell them apart. -/
theorem pairwise_discover {d : Disk} (hnames : d.HasNames) (w : Workspace) :
    (w.discover d).Pairwise fun file other => Locator.uriOfPath file.path ≠ Locator.uriOfPath other.path := by
  rw [discover_eq]
  cases d.resolve? w.root with
  | none => exact List.Pairwise.nil
  | some base =>
    have hnamed : ∀ entry ∈ d.files.toList, ∀ relative, entry.1 = base ++ relative →
        ∀ name ∈ relative, Path.IsName name := by
      intro entry hentry relative heq name hname
      apply hnames entry.1
      · rw [← Std.ExtTreeMap.map_fst_toList_eq_keys]
        exact List.mem_map_of_mem hentry
      · rw [heq]
        exact List.mem_append_right base hname
    rw [Option.elim_some, List.pairwise_filterMap]
    refine Std.ExtTreeMap.distinct_keys_toList.imp_of_mem ?_
    intro entry entry' hentry hentry' hdistinct file hfile file' hfile' huri
    obtain ⟨relative, hrelative, hpath⟩ := of_found? hfile
    obtain ⟨relative', hrelative', hpath'⟩ := of_found? hfile'
    have hsame := Locator.names_eq_of_uriOfPath_eq huri
    rw [hpath, hpath', names_pathBelow (hnamed entry hentry relative hrelative),
      names_pathBelow (hnamed entry' hentry' relative' hrelative'), List.append_cancel_left_eq] at hsame
    apply hdistinct
    rw [hrelative, hrelative', hsame]
    exact Std.ReflCmp.compare_self

/-- No two texts of a project are those of the same file. -/
theorem nodup_uris_texts {d : Disk} (hnames : d.HasNames) (w : Workspace) : ((w.texts d).map Prod.fst).Nodup := by
  unfold texts
  rw [List.Nodup, List.pairwise_map, List.pairwise_filterMap]
  refine (pairwise_discover hnames w).imp ?_
  intro file other hne live hlive live' hlive'
  obtain ⟨_, _, rfl⟩ := Option.map_eq_some_iff.1 hlive
  obtain ⟨_, _, rfl⟩ := Option.map_eq_some_iff.1 hlive'
  exact hne

end Workspace

end Traceability
