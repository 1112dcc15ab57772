import Traceability.Glob
import Traceability.Text.Line
set_option autoImplicit false

/-!
# Ignore rules

An ignore file holds one pattern a line, for the paths below its directory.  The last pattern that matches a
path decides: it is ignored, or kept if the pattern is marked with an exclamation mark.  A pattern without a
slash in it matches at any depth, one that ends in a slash only directories.
-/

namespace Traceability

/-- One line of an ignore file. -/
structure IgnoreRule where
  glob : Glob
  /-- Whether what matches is kept and not ignored. -/
  keeps : Bool
  onlyDirectories : Bool
  deriving Repr, Inhabited

namespace IgnoreRule

open Text

/-- Wildcards stop at slashes, and a lone bracket stands for itself. -/
def dialect : Glob.Dialect := { crossesSlash := false, bracketMayStandAlone := true }

/-- What a pattern matches at any depth begins with this. -/
def anywhere : List Char := ['*', '*', '/']

/-- The glob pattern for what is left of a line after its marks.  At the end, two asterisks match everything
inside a directory, but not the directory. -/
def globText (anchored : Bool) (pattern : List Char) : List Char :=
  let hasAnywhere := anywhere.isPrefixOf pattern || pattern = ['*', '*']
  let placed := if anchored || pattern.contains '/' || hasAnywhere then pattern else anywhere ++ pattern
  if ['/', '*', '*'].isSuffixOf placed then placed ++ ['/', '*'] else placed

/-- The rule for a pattern in front of which the marks have been read. -/
def ofPattern? (keeps anchored : Bool) (pattern : List Char) : Option IgnoreRule :=
  let onlyDirectories := pattern.getLast? = some '/'
  let bare := if onlyDirectories then pattern.dropLast else pattern
  let unescaped := if onlyDirectories && bare.getLast? = some '\\' then bare.dropLast else bare
  match Glob.ofText dialect (globText anchored unescaped) with
  | .ok glob => some { glob, keeps, onlyDirectories }
  | .error _ => none

/-- The rule on a line.  Comments, blank lines and bad patterns hold none.  An escaped blank at the end keeps
all blanks there. -/
def ofLine? (line : Line) : Option IgnoreRule :=
  if line.head? = some '#' then none
  else
    match if ['\\', ' '].isSuffixOf line then line else trimEnd line with
    | [] => none
    | '\\' :: '!' :: rest => ofPattern? false false ('!' :: rest)
    | '\\' :: '#' :: rest => ofPattern? false false ('#' :: rest)
    | '!' :: '/' :: rest => ofPattern? true true rest
    | '!' :: rest => ofPattern? true false rest
    | '/' :: rest => ofPattern? false true rest
    | pattern => ofPattern? false false pattern

end IgnoreRule

namespace IgnoreRules

open Text

/-- The lines of a file, as far as they are UTF-8.  A carriage return belongs to the line feed after it, and a
byte order mark in front does not count. -/
def readableLines (bytes : List UInt8) : List Line :=
  let rec decode (line : List UInt8) : List UInt8 → List Line
    | [] => (String.fromUTF8? ⟨line.reverse.toArray⟩).toList.map String.toList
    | b :: rest =>
      if b = 0x0a then
        match String.fromUTF8? ⟨line.reverse.toArray⟩ with
        | none => []
        | some text => dropCarriageReturn text.toList :: decode [] rest
      else decode (b :: line) rest
  match decode [] bytes with
  | [] => []
  | first :: rest => first.dropWhile (· == '\ufeff') :: rest

/-- The rules of an ignore file. -/
def ofBytes (bytes : ByteArray) : List IgnoreRule :=
  (readableLines bytes.toList).filterMap IgnoreRule.ofLine?

/-- Whether the rules say that a path is ignored or that it is kept; none if they say nothing. -/
def isIgnored? (rules : List IgnoreRule) (path : List Char) (isDirectory : Bool) : Option Bool :=
  (rules.reverse.find? fun r => (!r.onlyDirectories || isDirectory) && r.glob.isMatch path).map fun r => !r.keeps

end IgnoreRules

end Traceability
