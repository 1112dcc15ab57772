import Traceability.Emphasis
set_option autoImplicit false

/-!
# Documents: emphasised spans of a line

Reading a line from left to right finds its emphasised spans.  A backslash takes the next character out of
consideration, in front of a span as well as inside one.  An opening marker without a closing one ends the
reading of the line.

Places are numbers of characters from the start of the line.
-/

namespace Traceability.Document

open Text

/-- An emphasised stretch of a line. -/
structure Span where
  kind : Emphasis
  /-- The place of the opening marker. -/
  start : Nat
  /-- What stands between the markers. -/
  text : List Char
  deriving DecidableEq, Repr, Inhabited

namespace Span

/-- The place right after the opening marker. -/
def innerStart (s : Span) : Nat := s.start + s.kind.width

/-- The place of the closing marker. -/
def innerStop (s : Span) : Nat := s.innerStart + s.text.length

/-- The place right after the closing marker. -/
def stop (s : Span) : Nat := s.innerStop + s.kind.width

/-- The span as it is written, markers included. -/
def source (s : Span) : List Char := s.kind.marker ++ s.text ++ s.kind.marker

theorem length_source (s : Span) : s.start + s.source.length = s.stop := by
  simp only [source, stop, innerStop, innerStart, Emphasis.width, List.length_append]
  omega

end Span

/-- The spans of a line, and the opening marker at which its reading stopped, if it did. -/
structure Spans where
  spans : List Span
  unterminated : Option (Emphasis × Nat)
  deriving DecidableEq, Repr, Inhabited

/-- The text up to the first occurrence of `mark` that no backslash takes out, and the text after it. -/
def breakOnUnescaped (mark : List Char) : List Char → Option (List Char × List Char)
  | [] => none
  | '\\' :: [] => none
  | '\\' :: c :: rest => (breakOnUnescaped mark rest).map fun (before, after) => ('\\' :: c :: before, after)
  | c :: rest =>
    if mark.isPrefixOf (c :: rest) then some ([], (c :: rest).drop mark.length)
    else (breakOnUnescaped mark rest).map fun (before, after) => (c :: before, after)

theorem breakOnUnescaped_eq_append {mark s before after : List Char}
    (h : breakOnUnescaped mark s = some (before, after)) : s = before ++ mark ++ after := by
  fun_induction breakOnUnescaped mark s generalizing before with
  | case1 => simp at h
  | case2 => simp at h
  | case3 c rest ih =>
    obtain ⟨⟨b, a⟩, hb, hab⟩ := Option.map_eq_some_iff.1 h
    simp only [Prod.mk.injEq] at hab
    obtain ⟨rfl, rfl⟩ := hab
    simp [ih hb]
  | case4 c rest _ _ hp =>
    obtain ⟨t, ht⟩ := List.isPrefixOf_iff_prefix.1 hp
    simp only [Option.some.injEq, Prod.mk.injEq] at h
    obtain ⟨rfl, rfl⟩ := h
    simp [← ht]
  | case5 c rest _ _ _ ih =>
    obtain ⟨⟨b, a⟩, hb, hab⟩ := Option.map_eq_some_iff.1 h
    simp only [Prod.mk.injEq] at hab
    obtain ⟨rfl, rfl⟩ := hab
    simp [ih hb]

theorem length_unescaped_after_le {mark s before after : List Char}
    (h : breakOnUnescaped mark s = some (before, after)) : after.length ≤ s.length := by
  rw [breakOnUnescaped_eq_append h]
  simp
  omega

/-- The spans of the rest of a line, of which the first `place` characters have been read. -/
def spansFrom (place : Nat) : List Char → Spans
  | [] => ⟨[], none⟩
  | '\\' :: [] => ⟨[], none⟩
  | '\\' :: _ :: rest => spansFrom (place + 2) rest
  | c :: rest =>
    if c ≠ '*' then spansFrom (place + 1) rest
    else
      let kind := (Emphasis.opening rest).1
      let inner := (Emphasis.opening rest).2
      have : inner.length ≤ rest.length := Emphasis.length_opening_le rest
      if startsInked inner then
        match h : breakOnUnescaped kind.marker inner with
        | none => ⟨[], some (kind, place)⟩
        | some (text, after) =>
          have := length_unescaped_after_le h
          let span : Span := ⟨kind, place, text⟩
          let later := spansFrom span.stop after
          ⟨span :: later.spans, later.unterminated⟩
      else spansFrom (place + kind.width) inner
termination_by line => line.length
decreasing_by
  · simp only [List.length_cons]
    omega
  · simp only [List.length_cons]
    omega
  all_goals
    have := Emphasis.length_opening_le rest
    simp only [List.length_cons]
    omega

/-- The spans of a line from the place `start` on. -/
def spansOf (line : Line) (start : Nat) : Spans := spansFrom start (line.drop start)

end Traceability.Document
