import Traceability.Locator.Percent
import Traceability.Text.Line
set_option autoImplicit false

/-!
# Routes

The route of a locator is its path: a row of segments, or text without structure.  Segments of one dot and of two
dots are resolved when a path is read.  Two dots do not lead out of a drive, a letter with a colon or a bar.
-/

namespace Traceability.Locator

/-- The path of a locator. -/
inductive Route where
  /-- Text without structure. -/
  | rootless (text : List Char)
  /-- What stands after each slash. -/
  | segments (names : List (List Char))
  deriving DecidableEq, Repr, Inhabited

/-- The route as text. -/
def Route.text : Route → List Char
  | rootless text => text
  | segments names => names.flatMap fun name => '/' :: name

/-- Whether a character ends a segment. -/
def isSlash (special : Bool) (c : Char) : Bool := c == '/' || (special && c == '\\')

/-! ## Drives -/

/-- Whether a text begins with a letter and a colon or a bar. -/
def startsWithDrive : List Char → Bool
  | letter :: mark :: _ => letter.isAlpha && (mark == ':' || mark == '|')
  | _ => false

/-- Whether a segment is a drive. -/
def isDrive (segment : List Char) : Bool := segment.length = 2 && startsWithDrive segment

/-- Whether two dots do not lead out of a segment: it is a drive, or begins with one and a backslash. -/
def isHeld (segment : List Char) : Bool :=
  startsWithDrive segment && (segment.length = 2 || segment[2]? = some '\\')

/-! ## Dots -/

/-- A segment without regard to how its dots are written. -/
def plainDots : List Char → List Char
  | '%' :: '2' :: 'e' :: rest => '.' :: plainDots rest
  | '%' :: '2' :: 'E' :: rest => '.' :: plainDots rest
  | c :: rest => c :: plainDots rest
  | [] => []

/-- Leaves the last segment, if two dots lead out of it. -/
def leave (segments : List (List Char)) : List (List Char) :=
  if segments.getLast?.any isHeld then segments else segments.dropLast

/-- Resolves the dots of the segments that follow those already `resolved`.  If files are meant, a drive in the
first place with more behind it gets a colon. -/
def resolveDots (isFile : Bool) (resolved : List (List Char)) : List (List Char) → List (List Char)
  | [] => resolved
  | s :: rest =>
    let closed (segments : List (List Char)) := if rest.isEmpty then segments ++ [[]] else segments
    if plainDots s = ['.', '.'] then resolveDots isFile (closed (leave resolved)) rest
    else if plainDots s = ['.'] then resolveDots isFile (closed resolved) rest
    else
      let isRoot := isFile && resolved.isEmpty && isDrive s && !rest.isEmpty
      resolveDots isFile (resolved ++ [if isRoot then s.take 1 ++ [':'] else s]) rest

/-- The segments of a path, given without its first slash. -/
def readSegments (special isFile : Bool) (path : List Char) : List (List Char) :=
  resolveDots isFile [] ((Text.fields (isSlash special) path).map (percentEncode pathReserved))

/-- Drops empty segments in front, but not the last one. -/
def dropIdle (segments : List (List Char)) : List (List Char) :=
  match segments.dropWhile List.isEmpty with
  | [] => [[]]
  | rest => rest

end Traceability.Locator
