import Traceability.Text.Line
set_option autoImplicit false

/-!
# Paths

An absolute path is kept as it is written: what stands after each of its slashes.  Empty pieces and single dots
name nothing; two dots are kept, since what they lead to depends on the disk.  A path is text: where one may be met that
is not, its bytes are kept instead.
-/

namespace Traceability

/-- An absolute path as it is written, cut at its slashes. -/
structure Path where
  pieces : List String
  deriving DecidableEq, Repr, Inhabited

namespace Path

/-- The stretches between the slashes of a text. -/
def cut (text : String) : List String := (Text.fields (· == '/') text.toList).map String.ofList

/-- Whether a piece of a path names nothing. -/
def isIdle (piece : String) : Bool := piece == "" || piece == "."

/-- The pieces that name something. -/
def names (p : Path) : List String := p.pieces.filter fun piece => !isIdle piece

/-- Reads an absolute path. -/
def ofText? (text : String) : Option Path :=
  match cut text with
  | "" :: first :: rest => some ⟨first :: rest⟩
  | _ => none

/-- Reads the bytes of an absolute path; none if they are not text. -/
def ofBytes? (bytes : List UInt8) : Option Path := (String.fromUTF8? ⟨bytes.toArray⟩).bind ofText?

/-- The path as it is written. -/
def text (p : Path) : String := "/" ++ "/".intercalate p.pieces

/-- A path below another one. -/
def append (p : Path) (pieces : List String) : Path := ⟨p.pieces ++ pieces⟩

/-- Reads a path that may be relative to a directory. -/
def ofTextIn (directory : Path) (text : String) : Path :=
  match ofText? text with
  | some p => p
  | none => directory.append (cut text)

/-- An absolute path without idle pieces, except that a slash at its end is kept.  The empty text is no
path. -/
def absolute? (directory : Path) (text : String) : Option Path :=
  if text.isEmpty then none
  else
    let p := ofTextIn directory text
    some ⟨p.names ++ if text.endsWith "/" then [""] else []⟩

/-- Drops the idle pieces at both ends. -/
def trimIdle (pieces : List String) : List String :=
  ((pieces.dropWhile isIdle).reverse.dropWhile isIdle).reverse

/-- The pieces that are left of a path after the names of a directory above it. -/
def relativePieces? : List String → List String → Option (List String)
  | [], pieces => some (trimIdle pieces)
  | _ :: _, [] => none
  | name :: names, piece :: pieces =>
    if isIdle piece then relativePieces? (name :: names) pieces
    else if piece = name then relativePieces? names pieces
    else none

/-- The path relative to a directory, if it lies in it or is the directory itself.  What stands between its
ends is kept as it is written. -/
def relativeTo? (p directory : Path) : Option String :=
  (relativePieces? directory.names p.pieces).map "/".intercalate

end Path

end Traceability
