set_option autoImplicit false

/-!
# YAML: input

A text that is being read, together with the place that has been reached.  Where something stands on its line and
which blanks come before it decide in YAML what it means, so the place counts lines and columns, and it
remembers whether the line has begun.
-/

namespace Traceability.Yaml

/-- What is left of a text whose lines end in line feeds. -/
structure Input where
  rest : List Char
  /-- The number of characters before it. -/
  index : Nat := 0
  /-- The number of lines before it. -/
  line : Nat := 0
  /-- The number of characters before it on its line. -/
  column : Nat := 0
  /-- Whether only blanks stand before it on its line. -/
  leading : Bool := true
  deriving Repr, Inhabited

/-- Whether a character is a blank. -/
def isBlank (c : Char) : Bool := c == ' ' || c == '\t'

/-- Whether a blank, a line ending or nothing comes next. -/
def gapFollows : List Char → Bool
  | [] => true
  | c :: _ => isBlank c || c == '\n'

/-- Whether a character belongs to sequences and mappings in brackets. -/
def isFlowMark (c : Char) : Bool := c == ',' || c == '[' || c == ']' || c == '\x7b' || c == '\x7d'

/-- Whether a character is an ASCII letter, a digit, a dash or an underscore. -/
def isWordChar (c : Char) : Bool := c.isAlphanum || c == '-' || c == '_'

/-- Whether a text begins with a marker of three equal characters. -/
def startsMarker (c : Char) (s : List Char) : Bool := [c, c, c].isPrefixOf s && gapFollows (s.drop 3)

/-- Whether a text begins with the marker that opens or closes a document. -/
def startsAnyMarker (s : List Char) : Bool := startsMarker '-' s || startsMarker '.' s

namespace Input

/-- The next character. -/
def peek? (i : Input) : Option Char := i.rest.head?

/-- Whether the line ends here. -/
def atLineEnd (i : Input) : Bool := i.rest.isEmpty || i.peek? = some '\n'

/-- Whether a character comes next that satisfies a test. -/
def sees (i : Input) (p : Char → Bool) : Bool := i.peek?.any p

/-- The input after one more character. -/
def next (i : Input) : Input :=
  match i.rest with
  | [] => i
  | c :: rest =>
    if c = '\n' then { rest, index := i.index + 1, line := i.line + 1 }
    else
      { rest, index := i.index + 1, line := i.line, column := i.column + 1, leading := i.leading && isBlank c }

/-- The input after some more characters. -/
def advance (i : Input) : Nat → Input
  | 0 => i
  | n + 1 => i.next.advance n

/-- The input after the characters that satisfy a test. -/
def skipWhile (p : Char → Bool) (i : Input) : Input := i.advance (i.rest.takeWhile p).length

/-- The input at the end of the line. -/
def skipLine (i : Input) : Input := i.skipWhile (· != '\n')

/-- The input after the blanks and the comment that come next on the line.  A comment needs a blank in front. -/
def skipGap? (i : Input) : Option Input :=
  let j := i.skipWhile isBlank
  if j.peek? ≠ some '#' then some j else if j.index = i.index then none else some j.skipLine

end Input

/-- What stands for some line endings inside a scalar: one counts as a space, and of several the first is
dropped. -/
def foldBreaks (n : Nat) : List Char := if n = 1 then [' '] else List.replicate (n - 1) '\n'

end Traceability.Yaml
