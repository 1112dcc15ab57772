import Mathlib.Data.List.Basic
import Mathlib.Data.List.TakeWhile
import Traceability.Locator.Basic
import Traceability.Proofs.Locator.Percent
import Traceability.Proofs.Text.Fields
set_option autoImplicit false

/-!
# Uris of files

The uri of a file can always be read, and the locator has its segments with their dots resolved.  So reading it and
writing it again gives the same uri, unless the path has two dots among its names or begins with a drive that is
marked by a bar.
-/

namespace Traceability.Locator

/-- The uri that reading a uri and writing it again gives. -/
def address? (uri : String) : Option String := (ofText? uri).map Locator.uri

/-! ## Reading a path -/

/-- Whether a character has no meaning of its own in the path of a uri. -/
def isInner (c : Char) : Bool := 0x20 < c.toNat && !endsPath c && !isSlash true c

theorem isInner_of_mem_percentEncode {s : List Char} {c : Char} (h : c ∈ percentEncode nameReserved s) :
    isInner c = true := by
  rcases mem_percentEncode h with hencoding | ⟨hcontrol, hreserved⟩
  · have hinner : encodingChars.all isInner = true := by decide
    exact List.all_eq_true.1 hinner c hencoding
  · have hblank : c.toNat ≠ 0x20 := by
      intro hspace
      have hc : c = ' ' := Char.ext (UInt32.toNat_inj.1 hspace)
      exact hreserved (by rw [hc]; decide)
    have hends : endsPath c = false := by
      unfold endsPath
      rw [Bool.or_eq_false_iff, beq_eq_false_iff_ne, beq_eq_false_iff_ne]
      constructor
      · rintro rfl
        exact hreserved (by decide)
      · rintro rfl
        exact hreserved (by decide)
    have hslash : isSlash true c = false := by
      unfold isSlash
      rw [Bool.true_and, Bool.or_eq_false_iff, beq_eq_false_iff_ne, beq_eq_false_iff_ne]
      constructor
      · rintro rfl
        exact hreserved (by decide)
      · rintro rfl
        exact hreserved (by decide)
    unfold isControl at hcontrol
    simp only [Bool.or_eq_false_iff, decide_eq_false_iff_not] at hcontrol
    unfold isInner
    rw [hends, hslash, Bool.not_false, Bool.and_true, Bool.and_true, decide_eq_true_iff]
    omega

theorem blank_lt_of_isInner {c : Char} (h : isInner c = true) : 0x20 < c.toNat := by
  unfold isInner at h
  simp only [Bool.and_eq_true, decide_eq_true_iff] at h
  exact h.1.1

theorem endsPath_of_isInner {c : Char} (h : isInner c = true) : endsPath c = false := by
  unfold isInner at h
  simp only [Bool.and_eq_true, Bool.not_eq_true'] at h
  exact h.1.2

theorem isSlash_of_isInner {c : Char} (h : isInner c = true) : isSlash true c = false := by
  unfold isInner at h
  simp only [Bool.and_eq_true, Bool.not_eq_true'] at h
  exact h.2

/-- A text without blanks and controls has nothing around it that does not count. -/
theorem trim_edges_eq_self {s : List Char} (h : ∀ c ∈ s, 0x20 < c.toNat) :
    Text.dropEndWhile (fun c => decide (c.toNat ≤ 0x20)) (s.dropWhile fun c => decide (c.toNat ≤ 0x20)) = s := by
  have hedge : ∀ c ∈ s, decide (c.toNat ≤ 0x20) = false := by
    intro c hc
    have := h c hc
    rw [decide_eq_false_iff_not]
    omega
  rw [Text.dropWhile_eq_self hedge]
  exact Text.dropEndWhile_eq_self hedge

/-- Nor has it anything in it that does not count. -/
theorem filter_lines_eq_self {s : List Char} (h : ∀ c ∈ s, 0x20 < c.toNat) :
    (s.filter fun c => c != '\t' && c != '\n' && c != '\r') = s := by
  rw [List.filter_eq_self]
  intro c hc
  have hblank := h c hc
  simp only [Bool.and_eq_true, bne_iff_ne, ne_eq]
  refine ⟨⟨?_, ?_⟩, ?_⟩
  · rintro rfl
    exact absurd hblank (by decide)
  · rintro rfl
    exact absurd hblank (by decide)
  · rintro rfl
    exact absurd hblank (by decide)

/-- What stands before the path of a file. -/
def fileMark : List Char := ['f', 'i', 'l', 'e', ':', '/', '/', '/']

/-- A uri of a file without query and fragment denotes the segments of its path. -/
theorem ofText?_fileMark {body : List Char} (h : ∀ c ∈ body, isInner c = true ∨ c = '/') :
    ofText? (String.ofList (fileMark ++ body)) =
      some
        { scheme := fileScheme
          authority := some {}
          route := .segments (dropIdle (readSegments true true body)) } := by
  have hblank : ∀ c ∈ fileMark ++ body, 0x20 < c.toNat := by
    intro c hc
    rcases List.mem_append.1 hc with hmark | hbody
    · have hmarks : fileMark.all (fun c => decide (0x20 < c.toNat)) = true := by decide
      exact decide_eq_true_iff.1 (List.all_eq_true.1 hmarks c hmark)
    · rcases h c hbody with hinner | rfl
      · exact blank_lt_of_isInner hinner
      · decide
  have hends : ∀ c ∈ ['/', '/', '/'] ++ body, endsPath c = false := by
    intro c hc
    rcases List.mem_append.1 hc with hmark | hbody
    · have hmarks : ['/', '/', '/'].all (fun c => !endsPath c) = true := by decide
      exact (Bool.not_eq_true' _).mp (List.all_eq_true.1 hmarks c hmark)
    · rcases h c hbody with hinner | rfl
      · exact endsPath_of_isInner hinner
      · rfl
  have hscheme : readScheme? (fileMark ++ body) = some (fileScheme, ['/', '/', '/'] ++ body) := rfl
  have hfile : readFile? (['/', '/', '/'] ++ body) =
      some ({}, .segments (dropIdle (readSegments true true body))) := rfl
  have hhead : (['/', '/', '/'] ++ body).takeWhile (fun c => !endsPath c) = ['/', '/', '/'] ++ body := by
    rw [List.takeWhile_eq_self_iff]
    intro c hc
    rw [hends c hc]
    rfl
  have htail : (['/', '/', '/'] ++ body).dropWhile (fun c => !endsPath c) = [] := by
    rw [List.dropWhile_eq_nil_iff]
    intro c hc
    rw [hends c hc]
    rfl
  unfold ofText?
  simp only [String.toList_ofList]
  rw [trim_edges_eq_self hblank, filter_lines_eq_self hblank, hscheme]
  simp only [Option.bind_eq_bind, Option.bind_some, hhead, htail, if_pos, hfile]
  rfl

/-! ## The path of a file -/

/-- The segments of the uri of a file; one without text if the path has no names. -/
def fileSegments (p : Path) : List (List Char) :=
  match p.names with
  | [] => [[]]
  | names => names.map fun name => percentEncode nameReserved name.toList

/-- The path of the uri of a file, without its first slash. -/
def fileBody (p : Path) : List Char := ['/'].intercalate (fileSegments p)

theorem fileSegments_ne_nil (p : Path) : fileSegments p ≠ [] := by
  unfold fileSegments
  split
  · exact List.cons_ne_nil _ _
  · next names hnames =>
    intro hnil
    exact hnames (List.map_eq_nil_iff.1 hnil)

theorem isInner_of_mem_fileSegments {p : Path} {segment : List Char} (hsegment : segment ∈ fileSegments p) {c : Char}
    (hc : c ∈ segment) : isInner c = true := by
  unfold fileSegments at hsegment
  split at hsegment
  · rw [List.mem_singleton] at hsegment
    subst hsegment
    cases hc
  · obtain ⟨name, _, rfl⟩ := List.mem_map.1 hsegment
    exact isInner_of_mem_percentEncode hc

theorem flatMap_slash {segments : List (List Char)} (h : segments ≠ []) :
    (segments.flatMap fun s => '/' :: s) = '/' :: ['/'].intercalate segments := by
  induction segments with
  | nil => exact absurd rfl h
  | cons first rest ih =>
    cases rest with
    | nil => simp
    | cons second others =>
      rw [List.flatMap_cons, ih (List.cons_ne_nil _ _), List.intercalate_cons_cons]
      simp

theorem uriOfPath_eq (p : Path) : uriOfPath p = String.ofList (fileMark ++ fileBody p) := by
  have htext : (Route.segments (fileSegments p)).text = '/' :: fileBody p := flatMap_slash (fileSegments_ne_nil p)
  have hchars : uriOfPath p =
      String.ofList (['f', 'i', 'l', 'e', ':', '/', '/'] ++ (Route.segments (fileSegments p)).text ++ [] ++ []) := rfl
  rw [hchars, htext, List.append_nil, List.append_nil]
  rfl

theorem isInner_or_slash_of_mem_fileBody {p : Path} {c : Char} (h : c ∈ fileBody p) : isInner c = true ∨ c = '/' := by
  rcases Text.mem_intercalate h with rfl | ⟨segment, hsegment, hc⟩
  · exact .inr rfl
  · exact .inl (isInner_of_mem_fileSegments hsegment hc)

/-- A segment of the uri of a file is in order already. -/
theorem percentEncode_of_mem_fileSegments {p : Path} {segment : List Char} (h : segment ∈ fileSegments p) :
    percentEncode pathReserved segment = segment := by
  unfold fileSegments at h
  split at h
  · rw [List.mem_singleton] at h
    subst h
    rfl
  · obtain ⟨name, _, rfl⟩ := List.mem_map.1 h
    exact percentEncode_percentEncode (by decide) (by decide) name.toList

theorem readSegments_fileBody (p : Path) :
    readSegments true true (fileBody p) = resolveDots true [] (fileSegments p) := by
  have hfields : Text.fields (isSlash true) (fileBody p) = fileSegments p := by
    apply Text.fields_intercalate rfl (fileSegments_ne_nil p)
    intro segment hsegment c hc
    exact isSlash_of_isInner (isInner_of_mem_fileSegments hsegment hc)
  have hencoded : (fileSegments p).map (percentEncode pathReserved) = fileSegments p := by
    refine (List.map_congr_left ?_).trans (List.map_id _)
    intro segment hsegment
    exact percentEncode_of_mem_fileSegments hsegment
  unfold readSegments
  rw [hfields, hencoded]

/-- Reading the uri of a file resolves the dots of its path. -/
theorem ofText?_uriOfPath (p : Path) :
    ofText? (uriOfPath p) =
      some
        { scheme := fileScheme
          authority := some {}
          route := .segments (dropIdle (resolveDots true [] (fileSegments p))) } := by
  rw [uriOfPath_eq, ofText?_fileMark fun c hc => isInner_or_slash_of_mem_fileBody hc, readSegments_fileBody]

theorem isSome_address?_uriOfPath (p : Path) : (address? (uriOfPath p)).isSome = true := by
  unfold address?
  rw [ofText?_uriOfPath]
  rfl

/-! ## Paths without dots to resolve -/

theorem plainDots_cons_of_ne {c : Char} (hc : c ≠ '%') (rest : List Char) :
    plainDots (c :: rest) = c :: plainDots rest := by
  rw [plainDots]
  · intro _ hpercent
    exact absurd hpercent hc
  · intro _ hpercent
    exact absurd hpercent hc

theorem plainDots_encodeByte_append {b : UInt8} (hb : b.toNat ≠ '.'.toNat) (rest : List Char) :
    plainDots (encodeByte b ++ rest) = encodeByte b ++ plainDots rest := by
  have hdot : '.'.toNat = 0x2e := rfl
  have htwo : ∀ n < 16, hexDigit n = '2' → n = 2 := by decide
  have hlower : ∀ n < 16, hexDigit n ≠ 'e' := by decide
  have hupper : ∀ n < 16, hexDigit n = 'E' → n = 14 := by decide
  have hpercent : ∀ n < 16, hexDigit n ≠ '%' := by decide
  have hhigh : b.toNat / 16 < 16 := by
    have := b.toNat_lt
    omega
  have hlow : b.toNat % 16 < 16 := Nat.mod_lt _ (by decide)
  unfold encodeByte
  simp only [List.cons_append, List.nil_append]
  rw [plainDots, plainDots_cons_of_ne (hpercent _ hhigh), plainDots_cons_of_ne (hpercent _ hlow)]
  · intro _ _ hdigits
    rw [List.cons.injEq, List.cons.injEq] at hdigits
    exact hlower _ hlow hdigits.2.1
  · intro _ _ hdigits
    rw [List.cons.injEq, List.cons.injEq] at hdigits
    have hhigh := htwo _ hhigh hdigits.1
    have hlow := hupper _ hlow hdigits.2.1
    omega

/-- Dots are never written in digits where they need no encoding. -/
theorem plainDots_percentEncode {reserved : List Char} (hpercent : '%' ∈ reserved) (hdot : '.' ∉ reserved)
    (s : List Char) : plainDots (percentEncode reserved s) = percentEncode reserved s := by
  induction s with
  | nil => rfl
  | cons c rest ih =>
    rw [percentEncode_cons]
    split
    · next hencoded =>
      have hc : c ≠ '.' := by
        rintro rfl
        rw [Bool.or_eq_true] at hencoded
        rcases hencoded with hcontrol | hreserved
        · exact absurd hcontrol (by decide)
        · exact hdot (List.contains_iff_mem.1 hreserved)
      have hbytes : ∀ b ∈ String.utf8EncodeChar c, b.toNat ≠ '.'.toNat := by
        intro b hb heq
        rcases toNat_of_mem_utf8EncodeChar hb with houtside | hsame
        · rw [heq] at houtside
          exact absurd houtside (by decide)
        · exact hc (Char.ext (UInt32.toNat_inj.1 (hsame.symm.trans heq)))
      generalize String.utf8EncodeChar c = bytes at hbytes
      induction bytes with
      | nil => exact ih
      | cons b bytes ihbytes =>
        obtain ⟨hb, hrest⟩ := List.forall_mem_cons.1 hbytes
        rw [List.flatMap_cons, List.append_assoc, plainDots_encodeByte_append hb, ihbytes hrest]
    · next hkept =>
      have hc : c ≠ '%' := by
        rintro rfl
        exact hkept (by rw [List.contains_iff_mem.2 hpercent, Bool.or_true])
      rw [List.singleton_append, plainDots_cons_of_ne hc, ih]

/-- Nothing is resolved where there are no dots, unless a drive at the root is marked by a bar. -/
theorem resolveDots_eq_append {segments resolved : List (List Char)}
    (hdots : ∀ s ∈ segments, plainDots s ≠ ['.', '.'] ∧ plainDots s ≠ ['.'])
    (hroot : resolved = [] → ∀ s rest, segments = s :: rest → isDrive s = true → rest ≠ [] →
      s.take 1 ++ [':'] = s) :
    resolveDots true resolved segments = resolved ++ segments := by
  induction segments generalizing resolved with
  | nil =>
    rw [List.append_nil]
    rfl
  | cons s rest ih =>
    obtain ⟨⟨hparent, hself⟩, hrest⟩ := List.forall_mem_cons.1 hdots
    have hkept : (if (true && resolved.isEmpty && isDrive s && !rest.isEmpty) = true then s.take 1 ++ [':'] else s) =
        s := by
      split
      · next h =>
        simp only [Bool.true_and, Bool.and_eq_true, List.isEmpty_iff, Bool.not_eq_true', List.isEmpty_eq_false_iff] at h
        exact hroot h.1.1 s rest rfl h.1.2 h.2
      · rfl
    have hnext : resolved ++ [s] = [] → ∀ t others, rest = t :: others → isDrive t = true → others ≠ [] →
        t.take 1 ++ [':'] = t := by
      intro hnil
      exact absurd hnil (by simp)
    unfold resolveDots
    simp only [if_neg hparent, if_neg hself, hkept]
    rw [ih hrest hnext, List.append_assoc, List.singleton_append]

theorem dropIdle_eq_self {s : List Char} (hs : s ≠ []) (rest : List (List Char)) : dropIdle (s :: rest) = s :: rest := by
  unfold dropIdle
  rw [List.dropWhile_cons_of_neg]
  rw [List.isEmpty_iff]
  exact hs

end Traceability.Locator

namespace Traceability

/-- A path without two dots among its names, that does not begin with a drive that is marked by a bar, unless there is
nothing behind. -/
structure Path.IsPlain (p : Path) : Prop where
  dotless : ".." ∉ p.names
  barless : ∀ letter rest, letter.isAlpha = true → p.names = String.ofList [letter, '|'] :: rest → rest = []

namespace Locator

theorem plainDots_segment_ne {p : Path} (h : p.IsPlain) {name : String} (hname : name ∈ p.names) :
    plainDots (percentEncode nameReserved name.toList) ≠ ['.', '.'] ∧
      plainDots (percentEncode nameReserved name.toList) ≠ ['.'] := by
  rw [plainDots_percentEncode (by decide) (by decide)]
  have hunchanged : ∀ t, percentEncode nameReserved name.toList = t → '%' ∉ t → name = String.ofList t := by
    rintro t rfl hpercent
    rw [← eq_percentEncode_of_percent_not_mem hpercent, String.ofList_toList]
  constructor
  · intro hparent
    have hdots := hunchanged _ hparent (by decide)
    subst hdots
    exact h.dotless hname
  · intro hself
    have hdot := hunchanged _ hself (by decide)
    subst hdot
    unfold Path.names at hname
    have hidle := (List.mem_filter.1 hname).2
    exact absurd hidle (by decide)

/-- A drive at the root of a plain path keeps its mark. -/
theorem take_segment_eq {p : Path} (h : p.IsPlain) {name : String} {rest : List String} (hnames : p.names = name :: rest)
    (hdrive : isDrive (percentEncode nameReserved name.toList) = true) (hrest : rest ≠ []) :
    (percentEncode nameReserved name.toList).take 1 ++ [':'] = percentEncode nameReserved name.toList := by
  unfold isDrive at hdrive
  rw [Bool.and_eq_true, decide_eq_true_iff] at hdrive
  obtain ⟨hlength, hstart⟩ := hdrive
  obtain ⟨letter, mark, htext⟩ := List.length_eq_two.1 hlength
  rw [htext] at hstart ⊢
  simp only [startsWithDrive, Bool.and_eq_true, Bool.or_eq_true, beq_iff_eq] at hstart
  obtain ⟨hletter, rfl | rfl⟩ := hstart
  · rfl
  · have hpercent : '%' ∉ percentEncode nameReserved name.toList := by
      rw [htext]
      simp only [List.mem_cons, List.not_mem_nil, or_false, not_or]
      refine ⟨?_, by decide⟩
      rintro rfl
      exact absurd hletter (by decide)
    have hname : name = String.ofList [letter, '|'] := by
      rw [← htext, ← eq_percentEncode_of_percent_not_mem hpercent, String.ofList_toList]
    rw [hname] at hnames
    exact absurd (h.barless letter rest hletter hnames) hrest

/-- The segments of a plain path are in order. -/
theorem dropIdle_resolveDots_fileSegments {p : Path} (h : p.IsPlain) :
    dropIdle (resolveDots true [] (fileSegments p)) = fileSegments p := by
  cases hnames : p.names with
  | nil =>
    unfold fileSegments
    rw [hnames]
    rfl
  | cons name rest =>
    have hlist : fileSegments p = p.names.map fun name => percentEncode nameReserved name.toList := by
      unfold fileSegments
      rw [hnames]
    have hresolved : resolveDots true [] (fileSegments p) = fileSegments p := by
      apply resolveDots_eq_append
      · intro s hs
        rw [hlist] at hs
        obtain ⟨other, hother, rfl⟩ := List.mem_map.1 hs
        exact plainDots_segment_ne h hother
      · intro _ s others hsegments hdrive hothers
        rw [hlist, hnames, List.map_cons, List.cons.injEq] at hsegments
        obtain ⟨rfl, rfl⟩ := hsegments
        exact take_segment_eq h hnames hdrive (mt List.map_eq_nil_iff.2 hothers)
    have hname : name.toList ≠ [] := by
      intro hempty
      have hmem : name ∈ p.names := by
        rw [hnames]
        exact List.mem_cons_self
      have hidle := (List.mem_filter.1 hmem).2
      rw [String.toList_eq_nil_iff.1 hempty] at hidle
      exact absurd hidle (by decide)
    rw [hresolved, hlist, hnames, List.map_cons]
    exact dropIdle_eq_self (percentEncode_ne_nil hname) _

/-- The locator of the file at a plain path. -/
def ofPath (p : Path) : Locator :=
  { scheme := fileScheme
    authority := some {}
    route := .segments (fileSegments p) }

theorem ofText?_uriOfPath_of_isPlain {p : Path} (h : p.IsPlain) : ofText? (uriOfPath p) = some (ofPath p) := by
  rw [ofText?_uriOfPath, dropIdle_resolveDots_fileSegments h]
  rfl

end Locator

end Traceability
