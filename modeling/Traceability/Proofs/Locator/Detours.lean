import Traceability.Proofs.Locator.FilePath
set_option autoImplicit false

/-!
# Where the uris of files lead

The uri of a plain path denotes a path with the same names.  Of other paths it does not: two dots are resolved when a
uri is read, so what it denotes has none, and a drive at the root that is marked by a bar comes back with a colon.
-/

namespace Traceability.Locator

/-! ## Drives -/

theorem not_isControl_of_isAlpha {letter : Char} (h : letter.isAlpha = true) : isControl letter = false := by
  have hrange := toNat_of_isAlpha h
  unfold isControl
  simp only [Bool.or_eq_false_iff, decide_eq_false_iff_not]
  omega

/-- A letter is never encoded. -/
theorem segmentOf_letter {letter : Char} (h : letter.isAlpha = true) (mark : Char) :
    segmentOf (String.ofList [letter, mark]) = letter :: percentEncode nameReserved [mark] := by
  have hreserved : letter ∉ nameReserved := by
    have hno : nameReserved.all (fun c => !c.isAlpha) = true := by decide
    intro hmem
    have hletter := List.all_eq_true.1 hno letter hmem
    rw [h] at hletter
    cases hletter
  have hkept : (isControl letter || nameReserved.contains letter) = false := by
    rw [not_isControl_of_isAlpha h, Bool.false_or, Bool.eq_false_iff]
    exact mt List.contains_iff_mem.1 hreserved
  unfold segmentOf
  rw [String.toList_ofList, percentEncode_cons, hkept]
  rfl

/-- A drive is a name that files can have, however it is marked. -/
theorem isName_drive {letter mark : Char} (hletter : letter.isAlpha = true) (hmark : mark ≠ '/') :
    Path.IsName (String.ofList [letter, mark]) := by
  have hdot : letter ≠ '.' := by
    rintro rfl
    exact absurd hletter (by decide)
  have hslash : letter ≠ '/' := by
    rintro rfl
    exact absurd hletter (by decide)
  refine ⟨?_, ?_, ?_⟩
  · unfold Path.isIdle
    rw [Bool.or_eq_false_iff, beq_eq_false_iff_ne, beq_eq_false_iff_ne, ne_eq, ne_eq, ← String.toList_inj,
      ← String.toList_inj, String.toList_ofList]
    exact ⟨List.cons_ne_nil _ _, fun h => List.cons_ne_nil _ _ (List.cons.inj h).2⟩
  · intro hdots
    rw [← String.toList_inj, String.toList_ofList] at hdots
    exact hdot (List.cons.inj hdots).1
  · rw [String.toList_ofList]
    simp [hslash.symm, hmark.symm]

/-! ## Resolved names -/

/-- Two dots lead up, all other names lead down or stay. -/
def LeadsDown (name : String) : Prop := name ≠ ".." ∧ '/' ∉ name.toList

theorem leadsDown_empty : LeadsDown "" := by
  unfold LeadsDown
  decide

theorem segmentOf_empty : segmentOf "" = [] := rfl

/-- A written name that is no two dots stays one that leads down, also as a drive at the root. -/
theorem exists_segmentOf_eq {name : String} (hslash : '/' ∉ name.toList)
    (hparent : plainDots (segmentOf name) ≠ ['.', '.']) {isRoot : Bool}
    (hroot : isRoot = true → isDrive (segmentOf name) = true) :
    ∃ next, (if isRoot = true then (segmentOf name).take 1 ++ [':'] else segmentOf name) = segmentOf next ∧
      LeadsDown next := by
  cases isRoot with
  | false =>
    refine ⟨name, rfl, ?_, hslash⟩
    rintro rfl
    exact hparent (by decide)
  | true =>
    obtain ⟨letter, mark, hletter, _, hsegment⟩ := exists_of_isDrive (hroot rfl)
    refine ⟨String.ofList [letter, ':'], ?_, (isName_drive hletter (by decide)).2⟩
    rw [hsegment, segmentOf_letter hletter]
    rfl

theorem leadsDown_concat {names : List String} (h : ∀ name ∈ names, LeadsDown name) {next : String}
    (hnext : LeadsDown next) : ∀ name ∈ names ++ [next], LeadsDown name := by
  intro name hname
  rcases List.mem_append.1 hname with hname | hname
  · exact h name hname
  · rw [List.mem_singleton.1 hname]
    exact hnext

theorem map_segmentOf_concat (names : List String) (next : String) :
    names.map segmentOf ++ [segmentOf next] = (names ++ [next]).map segmentOf := by
  rw [List.map_append, List.map_singleton]

/-- Whatever is resolved consists of written names that lead down: the induction adds them one by one, and leaving one
never brings another one in. -/
theorem exists_resolveDots_eq {resolved pending : List String} (hresolved : ∀ name ∈ resolved, LeadsDown name)
    (hpending : ∀ name ∈ pending, '/' ∉ name.toList) :
    ∃ names : List String,
      resolveDots true (resolved.map segmentOf) (pending.map segmentOf) = names.map segmentOf ∧
        ∀ name ∈ names, LeadsDown name := by
  induction pending generalizing resolved with
  | nil => exact ⟨resolved, rfl, hresolved⟩
  | cons name rest ih =>
    obtain ⟨hname, hrest⟩ := List.forall_mem_cons.1 hpending
    -- What is kept after dots gets an empty segment behind it, if the path ends there.
    have hclosed : ∀ kept : List String, (∀ name ∈ kept, LeadsDown name) →
        ∃ names : List String,
          resolveDots true
              (if (rest.map segmentOf).isEmpty then kept.map segmentOf ++ [[]] else kept.map segmentOf)
              (rest.map segmentOf) = names.map segmentOf ∧
            ∀ name ∈ names, LeadsDown name := by
      intro kept hkept
      split
      · rw [← segmentOf_empty, map_segmentOf_concat]
        exact ih (leadsDown_concat hkept leadsDown_empty) hrest
      · exact ih hkept hrest
    rw [List.map_cons, resolveDots]
    split
    · unfold leave
      split
      · exact hclosed resolved hresolved
      · rw [← List.map_dropLast]
        exact hclosed resolved.dropLast fun other hother =>
          hresolved other ((List.dropLast_sublist resolved).subset hother)
    · next hparent =>
      split
      · exact hclosed resolved hresolved
      · have hdrive : (true && (resolved.map segmentOf).isEmpty && isDrive (segmentOf name) &&
            !(rest.map segmentOf).isEmpty) = true → isDrive (segmentOf name) = true := by
          simp only [Bool.and_eq_true]
          exact fun hroot => hroot.1.2
        obtain ⟨next, hnext, hdown⟩ := exists_segmentOf_eq hname hparent hdrive
        simp only [hnext]
        rw [map_segmentOf_concat]
        exact ih (leadsDown_concat hresolved hdown) hrest

/-- Dropping idle segments leaves written names too, and at least one. -/
theorem exists_dropIdle_eq {names : List String} (h : ∀ name ∈ names, LeadsDown name) :
    ∃ others, dropIdle (names.map segmentOf) = others.map segmentOf ∧ others ≠ [] ∧
      ∀ name ∈ others, LeadsDown name := by
  unfold dropIdle
  rw [List.dropWhile_map]
  split
  · refine ⟨[""], rfl, List.cons_ne_nil _ _, ?_⟩
    intro name hname
    rw [List.mem_singleton.1 hname]
    exact leadsDown_empty
  · next hne =>
    refine ⟨_, rfl, ?_, fun name hname => h name ((List.dropWhile_sublist _).subset hname)⟩
    intro hnil
    exact hne (List.map_eq_nil_iff.2 hnil)

/-! ## Paths -/

/-- The path that a locator of a file denotes has the names of its route, and only idle pieces behind them. -/
theorem exists_path?_eq_some {l : Locator} {names : List String} (hauthority : l.authority = some {})
    (hroute : l.route = .segments (names.map segmentOf)) (hne : names ≠ [])
    (hslash : ∀ name ∈ names, '/' ∉ name.toList) :
    ∃ idle, (∀ piece ∈ idle, Path.isIdle piece = true) ∧ l.path? = some ⟨names ++ idle⟩ := by
  rw [path?_eq_of_route hauthority hroute hne]
  split
  · have hslashes : ∀ piece ∈ names ++ [""], '/' ∉ piece.toList := by
      intro piece hpiece
      rcases List.mem_append.1 hpiece with hpiece | hpiece
      · exact hslash piece hpiece
      · rw [List.mem_singleton.1 hpiece]
        exact List.not_mem_nil
    rw [Path.text_append_slash hne, Path.ofText?_text hslashes, if_neg (by simp)]
    exact ⟨[""], by decide, rfl⟩
  · rw [Path.ofText?_text hslash, if_neg hne]
    exact ⟨[], by simp, by rw [List.append_nil]⟩

/-- The uri of a plain path denotes a path with its names. -/
theorem exists_pathOfUri?_of_isPlain {p : Path} (h : p.IsPlain) (hslash : ∀ name ∈ p.names, '/' ∉ name.toList) :
    ∃ idle, (∀ piece ∈ idle, Path.isIdle piece = true) ∧ pathOfUri? (uriOfPath p) = some ⟨p.names ++ idle⟩ := by
  unfold pathOfUri?
  rw [ofText?_uriOfPath_of_isPlain h, Option.bind_some]
  by_cases hnil : p.names = []
  · have hroute : (ofPath p).route = .segments ([""].map segmentOf) := by
      unfold ofPath fileSegments
      rw [hnil]
      rfl
    obtain ⟨idle, hidle, hpath⟩ := exists_path?_eq_some rfl hroute (List.cons_ne_nil _ _) (by simp)
    refine ⟨"" :: idle, List.forall_mem_cons.2 ⟨rfl, hidle⟩, ?_⟩
    rw [hpath, hnil]
    rfl
  · have hroute : (ofPath p).route = .segments (p.names.map segmentOf) := by
      unfold ofPath
      rw [fileSegments_of_ne_nil hnil]
      rfl
    exact exists_path?_eq_some rfl hroute hnil hslash

theorem namesOfUri?_uriOfPath_of_isPlain {p : Path} (h : p.IsPlain) (hslash : ∀ name ∈ p.names, '/' ∉ name.toList) :
    namesOfUri? (uriOfPath p) = some p.nameBytes := by
  obtain ⟨idle, hidle, hpath⟩ := exists_pathOfUri?_of_isPlain h hslash
  have hnone : Path.names ⟨idle⟩ = [] := by
    unfold Path.names
    rw [List.filter_eq_nil_iff]
    intro piece hpiece
    simp [hidle piece hpiece]
  have happend : Path.names ⟨p.names ++ idle⟩ = Path.names ⟨p.names⟩ ++ Path.names ⟨idle⟩ := List.filter_append _ _
  have hnames : Path.names ⟨p.names ++ idle⟩ = p.names := by
    rw [happend, hnone, List.append_nil, p.names_names]
  rw [namesOfUri?_of_pathOfUri? hpath]
  unfold Path.nameBytes
  rw [hnames]

/-- The uri of a path denotes a path, and never one with two dots. -/
theorem exists_pathOfUri?_uriOfPath {p : Path} (hslash : ∀ name ∈ p.names, '/' ∉ name.toList) :
    ∃ q, pathOfUri? (uriOfPath p) = some q ∧ ".." ∉ q.pieces := by
  obtain ⟨pending, hsegments, hpending⟩ :
      ∃ pending : List String, fileSegments p = pending.map segmentOf ∧ ∀ name ∈ pending, '/' ∉ name.toList := by
    unfold fileSegments
    split
    · exact ⟨[""], rfl, by simp⟩
    · exact ⟨p.names, rfl, hslash⟩
  obtain ⟨resolved, hresolved, hdown⟩ := exists_resolveDots_eq (List.forall_mem_nil LeadsDown) hpending
  obtain ⟨names, hnames, hne, hnamesDown⟩ := exists_dropIdle_eq hdown
  have hread := ofText?_uriOfPath p
  rw [hsegments] at hread
  rw [List.map_nil] at hresolved
  rw [hresolved, hnames] at hread
  obtain ⟨idle, hidle, hpath⟩ :=
    exists_path?_eq_some (l := ⟨fileScheme, some {}, .segments (names.map segmentOf), none, none⟩) rfl rfl hne
      fun name hname => (hnamesDown name hname).2
  refine ⟨⟨names ++ idle⟩, ?_, ?_⟩
  · unfold pathOfUri?
    rw [hread, Option.bind_some, hpath]
  · intro hmem
    rcases List.mem_append.1 hmem with hname | hpiece
    · exact (hnamesDown ".." hname).1 rfl
    · exact absurd (hidle ".." hpiece) (by decide)

/-- A drive at the root of a longer path is read with a colon, however it is marked. -/
theorem resolveDots_drive {letter mark : Char} (hletter : letter.isAlpha = true) (hmark : mark = ':' ∨ mark = '|')
    {segments : List (List Char)} (hne : segments ≠ []) :
    resolveDots true [] ([letter, mark] :: segments) = resolveDots true [[letter, ':']] segments := by
  have hpercent : letter ≠ '%' := by
    rintro rfl
    exact absurd hletter (by decide)
  have hdots : plainDots [letter, mark] = [letter, mark] := by
    rw [plainDots_cons_of_ne hpercent]
    rcases hmark with rfl | rfl
    · rfl
    · rfl
  have hparent : [letter, mark] ≠ ['.', '.'] := by
    rintro h
    obtain rfl : mark = '.' := (List.cons.inj (List.cons.inj h).2).1
    exact absurd hmark (by decide)
  have hdrive : isDrive [letter, mark] = true := by
    simpa [isDrive, startsWithDrive, hletter] using hmark
  rw [resolveDots, hdots]
  simp [hparent, hdrive, hne]

/-- So the uri with a bar denotes the same path as that with a colon. -/
theorem pathOfUri?_of_bar {p q : Path} {letter : Char} {rest : List String} (hletter : letter.isAlpha = true)
    (hrest : rest ≠ []) (hp : p.names = String.ofList [letter, '|'] :: rest)
    (hq : q.names = String.ofList [letter, ':'] :: rest) : pathOfUri? (uriOfPath p) = pathOfUri? (uriOfPath q) := by
  have hsegments : ∀ {r : Path} {mark : Char}, (mark = ':' ∨ mark = '|') →
      r.names = String.ofList [letter, mark] :: rest → fileSegments r = [letter, mark] :: rest.map segmentOf := by
    intro r mark hmark hnames
    have hwritten : segmentOf (String.ofList [letter, mark]) = [letter, mark] := by
      rw [segmentOf_letter hletter]
      rcases hmark with rfl | rfl
      · rfl
      · rfl
    have hne : r.names ≠ [] := by
      rw [hnames]
      exact List.cons_ne_nil _ _
    rw [fileSegments_of_ne_nil hne, hnames, List.map_cons]
    exact congrArg (· :: rest.map segmentOf) hwritten
  have hothers : rest.map segmentOf ≠ [] := mt List.map_eq_nil_iff.1 hrest
  unfold pathOfUri?
  rw [ofText?_uriOfPath, ofText?_uriOfPath, hsegments (.inr rfl) hp, hsegments (.inl rfl) hq,
    resolveDots_drive hletter (.inr rfl) hothers, resolveDots_drive hletter (.inl rfl) hothers]

/-- A path with a bar behind the letter of its drive comes back with a colon. -/
theorem exists_pathOfUri?_of_bar {p : Path} {letter : Char} {rest : List String} (hletter : letter.isAlpha = true)
    (hrest : rest ≠ []) (hp : p.names = String.ofList [letter, '|'] :: rest)
    (hnamed : ∀ name ∈ rest, Path.IsName name) :
    ∃ idle, (∀ piece ∈ idle, Path.isIdle piece = true) ∧
      pathOfUri? (uriOfPath p) = some ⟨String.ofList [letter, ':'] :: rest ++ idle⟩ := by
  let q : Path := ⟨String.ofList [letter, ':'] :: rest⟩
  have hpieces : ∀ piece ∈ q.pieces, Path.IsName piece :=
    List.forall_mem_cons.2 ⟨isName_drive hletter (by decide), hnamed⟩
  have hq : q.names = String.ofList [letter, ':'] :: rest := Path.names_eq_self hpieces
  have hregular : q.IsRegular := by
    refine ⟨hpieces, ?_⟩
    intro other others _ heq
    have hdrive := (List.cons.inj heq).1
    rw [String.ofList_inj] at hdrive
    exact absurd (List.cons.inj (List.cons.inj hdrive).2).1 (by decide)
  rw [pathOfUri?_of_bar hletter hrest hp hq, ← hq]
  exact exists_pathOfUri?_of_isPlain hregular.isPlain fun name hname => (hpieces name (List.mem_filter.1 hname).1).2.2

end Traceability.Locator
