import Traceability.Text.Digit
import Traceability.Yaml.Input
set_option autoImplicit false

/-!
# YAML: scalars on their lines

Scalars without quotes and in quotes.  They may go on over several lines, which are then joined.  How far the
further lines must be indented depends on what the scalar belongs to: `indent` is the column of the innermost
block around it.
-/

namespace Traceability.Yaml

/-! ## Plain scalars -/

/-- Whether a colon before this text ends a key. -/
def endsKey (inFlow : Bool) (rest : List Char) : Bool := gapFollows rest || (inFlow && rest.head?.any isFlowMark)

/-- What belongs to a plain scalar up to the next blank. -/
def plainWord (inFlow : Bool) : List Char → List Char
  | [] => []
  | c :: rest =>
    if isBlank c || c = '\n' || (c = ':' && endsKey inFlow rest) || (inFlow && isFlowMark c) then []
    else c :: plainWord inFlow rest

/-- The number of line endings, after `breaks` earlier ones, before what follows a word of a plain scalar.  A
line that holds anything must not be indented with tabs. -/
def plainBreaks? (indent : Int) : Nat → Nat → Input → Option (Nat × Input)
  | 0, _, _ => none
  | fuel + 1, breaks, i =>
    match i.rest with
    | '\n' :: _ => plainBreaks? indent fuel (breaks + 1) i.next
    | '\t' :: _ =>
      if 0 < breaks && i.column < indent then do
        let j ← i.skipGap?
        if j.atLineEnd then plainBreaks? indent fuel breaks j else none
      else plainBreaks? indent fuel breaks i.next
    | ' ' :: _ => plainBreaks? indent fuel breaks i.next
    | _ => some (breaks, i)

/-- The words of a plain scalar from here on; `gap` stands before the first of them. -/
def plainWords? (inFlow : Bool) (indent : Int) : Nat → List Char → Input → Option (List Char × Input)
  | 0, _, _ => none
  | fuel + 1, gap, i =>
    if (i.leading && startsAnyMarker i.rest) || i.peek? = some '#' then some ([], i)
    else if inFlow && i.peek? = some '-' && i.next.sees isFlowMark then none
    else
      let word := plainWord inFlow i.rest
      let text := if word.isEmpty then [] else gap ++ word
      let j := i.advance word.length
      if j.rest.isEmpty || !gapFollows j.rest then some (text, j)
      else do
        let (breaks, k) ← plainBreaks? indent (j.rest.length + 1) 0 j
        let blanks := if breaks = 0 then j.rest.takeWhile isBlank else foldBreaks breaks
        if !inFlow && k.column < indent then some (text, k)
        else
          let (more, l) ← plainWords? inFlow indent fuel blanks k
          some (text ++ more, l)

/-- Reads a plain scalar; it is not empty. -/
def plainScalar? (inFlow : Bool) (indent : Int) (i : Input) : Option (List Char × Input) :=
  if inFlow && i.column < indent then none
  else do
    let (text, j) ← plainWords? inFlow indent (i.rest.length + 1) [] i
    if text.isEmpty then none else some (text, j)

/-! ## Escapes -/

/-- The character for a letter after a backslash. -/
def escaped? (c : Char) : Option Char :=
  match c with
  | '0' => some (Char.ofNat 0)
  | 'a' => some (Char.ofNat 7)
  | 'b' => some (Char.ofNat 8)
  | 't' | '\t' => some '\t'
  | 'n' => some '\n'
  | 'v' => some (Char.ofNat 11)
  | 'f' => some (Char.ofNat 12)
  | 'r' => some '\r'
  | 'e' => some (Char.ofNat 27)
  | ' ' => some ' '
  | '"' => some '"'
  | '/' => some '/'
  | '\\' => some '\\'
  | 'N' => some (Char.ofNat 0x85)
  | '_' => some (Char.ofNat 0xa0)
  | 'L' => some (Char.ofNat 0x2028)
  | 'P' => some (Char.ofNat 0x2029)
  | _ => none

/-- The number of hexadecimal digits after a letter that follows a backslash. -/
def escapeDigits? (c : Char) : Option Nat :=
  match c with
  | 'x' => some 2
  | 'u' => some 4
  | 'U' => some 8
  | _ => none

/-- The character with a hexadecimal number of so many digits. -/
def charOfDigits? (count : Nat) (digits : List Char) : Option Char := do
  if digits.length ≠ count then none
  let values ← digits.mapM (Text.digitValue? 16)
  let n := values.foldl (fun n d => 16 * n + d) 0
  if n.isValidChar then some (Char.ofNat n) else none

/-- The character that the text after a backslash stands for, and the number of characters it is written
with. -/
def readEscape? : List Char → Option (Char × Nat)
  | [] => none
  | e :: rest =>
    match escapeDigits? e with
    | some count => (charOfDigits? count (rest.take count)).map fun c => (c, 1 + count)
    | none => (escaped? e).map fun c => (c, 1)

/-! ## Quoted scalars -/

/-- What comes after some characters inside quotes. -/
inductive QuotedEnd where
  /-- A gap, the closing quote or the end of the text. -/
  | gap
  /-- A line ending that a backslash takes away. -/
  | joined
  deriving DecidableEq, Repr, Inhabited

/-- The characters inside quotes up to the next gap or the closing quote. -/
def quotedWord? (double : Bool) : Nat → Input → Option (List Char × QuotedEnd × Input)
  | 0, _ => none
  | fuel + 1, i =>
    let taken (c : Char) (count : Nat) : Option (List Char × QuotedEnd × Input) :=
      (quotedWord? double fuel (i.advance count)).map fun (text, stop, j) => (c :: text, stop, j)
    match i.rest with
    | [] => some ([], .gap, i)
    | c :: rest =>
      if isBlank c || c = '\n' then some ([], .gap, i)
      else if !double && c = '\'' then
        if rest.head? = some '\'' then taken '\'' 2 else some ([], .gap, i)
      else if double && c = '"' then some ([], .gap, i)
      else if double && c = '\\' then
        if rest.head? = some '\n' then some ([], .joined, i.advance 2)
        else (readEscape? rest).bind fun (c, count) => taken c (1 + count)
      else taken c 1

/-- The number of line endings, after `breaks` earlier ones, before what follows inside quotes; `started` tells
whether a line ending has been passed.  Lines are not indented with tabs. -/
def quotedBreaks? (indent : Int) : Nat → Bool → Nat → Input → Option (Nat × Input)
  | 0, _, _, _ => none
  | fuel + 1, started, breaks, i =>
    match i.rest with
    | '\n' :: _ => quotedBreaks? indent fuel true (breaks + 1) i.next
    | ' ' :: _ => quotedBreaks? indent fuel started breaks i.next
    | '\t' :: _ => if started && i.column < indent then none else quotedBreaks? indent fuel started breaks i.next
    | _ => some (breaks, i)

/-- The text from here to the closing quote.  No line may begin left of the indentation or with the marker of a
document. -/
def quotedText? (double : Bool) (indent : Int) : Nat → Input → Option (List Char × Input)
  | 0, _ => none
  | fuel + 1, i =>
    if i.rest.isEmpty || i.column < indent || (i.column = 0 && startsAnyMarker i.rest) then none
    else do
      let (word, stop, j) ← quotedWord? double (i.rest.length + 1) i
      if j.peek? = some (if double then '"' else '\'') then return (word, j.next)
      let (breaks, k) ← quotedBreaks? indent (j.rest.length + 1) (stop = .joined) 0 j
      let gap :=
        if stop = .joined then List.replicate breaks '\n'
        else if breaks = 0 then j.rest.takeWhile isBlank
        else foldBreaks breaks
      let (more, l) ← quotedText? double indent fuel k
      return (word ++ gap ++ more, l)

/-- Reads a scalar in quotes.  After it on its line comes nothing, or what may follow it between brackets, or
the colon of a key; outside brackets a key stands on one line. -/
def quotedScalar? (double inFlow : Bool) (indent : Int) (i : Input) : Option (List Char × Input) := do
  let (text, j) ← quotedText? double indent (i.rest.length + 1) i.next
  let k ← j.skipGap?
  match k.rest with
  | [] | '\n' :: _ => return (text, k)
  | ':' :: _ => if inFlow || k.line = i.line then return (text, k) else none
  | c :: _ => if inFlow && (c = ',' || c = ']' || c = '\x7d') then return (text, k) else none

/-! ## Block scalars -/

/-- What happens to the line endings after the last line of a block scalar. -/
inductive Chomping where
  | strip
  | clip
  | keep
  deriving DecidableEq, Repr, Inhabited

/-- The sign for the line endings at the end of a block scalar. -/
def readChomping? : List Char → Option Chomping
  | '+' :: _ => some .keep
  | '-' :: _ => some .strip
  | _ => none

/-- The number of columns by which a block scalar says that it is indented, and the rest; zero if it does not
say. -/
def readIncrement? (i : Input) : Option (Nat × Input) :=
  match i.rest with
  | '0' :: _ => none
  | c :: _ => if c.isDigit then some (c.toNat - 0x30, i.next) else some (0, i)
  | [] => some (0, i)

/-- The signs of a block scalar after its first character, in either order. -/
def readHeader? (i : Input) : Option (Chomping × Nat × Input) := do
  match readChomping? i.rest with
  | some chomping =>
    let (increment, j) ← readIncrement? i.next
    return (chomping, increment, j)
  | none =>
    let (increment, j) ← readIncrement? i
    match if increment = 0 then none else readChomping? j.rest with
    | some chomping => return (chomping, increment, j.next)
    | none => return (.clip, increment, j)

/-- The number of empty lines, after `breaks` earlier ones, before a line that is not; spaces up to a column
belong to the indentation. -/
def blockIndent (column : Nat) : Nat → Nat → Input → Nat × Input
  | 0, breaks, i => (breaks, i)
  | fuel + 1, breaks, i =>
    let j := i.advance (min (column - i.column) (i.rest.takeWhile (· == ' ')).length)
    if j.peek? = some '\n' then blockIndent column fuel (breaks + 1) j.next else (breaks, j)

/-- The same if the column is not yet known, and the widest indentation of these lines. -/
def blockFirstIndent : Nat → Nat → Nat → Input → Nat × Nat × Input
  | 0, widest, breaks, i => (widest, breaks, i)
  | fuel + 1, widest, breaks, i =>
    let j := i.skipWhile (· == ' ')
    let widest := max widest j.column
    if j.peek? = some '\n' then blockFirstIndent fuel widest (breaks + 1) j.next else (widest, breaks, j)

/-- What has been read of a block scalar. -/
structure BlockText where
  text : List Char := []
  /-- Whether the last line has ended. -/
  ended : Bool := false
  /-- Whether the last line began with a blank. -/
  blank : Bool := false
  /-- The number of empty lines after it. -/
  breaks : Nat
  deriving Repr, Inhabited

/-- Reads the lines of a block scalar at a column.  In a folded one a line ending between two lines that do not
begin with a blank counts as a space. -/
def blockLines (folded : Bool) (column : Nat) : Nat → BlockText → Input → BlockText × Input
  | 0, b, i => (b, i)
  | fuel + 1, b, i =>
    if i.column ≠ column || i.rest.isEmpty || (column = 0 && startsMarker '.' i.rest) then (b, i)
    else
      let blank := i.sees isBlank
      let gap :=
        if folded && b.ended && !b.blank && !blank then
          if b.breaks = 0 then [' '] else List.replicate b.breaks '\n'
        else List.replicate (b.breaks + if b.ended then 1 else 0) '\n'
      let j := i.skipLine
      let text := b.text ++ gap ++ i.rest.takeWhile (· != '\n')
      if j.rest.isEmpty then ({ text, blank, breaks := 0 }, j)
      else
        let (breaks, k) := blockIndent column (j.rest.length + 1) 0 j.next
        blockLines folded column fuel { text, ended := true, blank, breaks } k

/-- Reads a block scalar below a block at the column `indent`. -/
def blockScalar? (folded : Bool) (indent : Int) (i : Input) : Option (List Char × Input) := do
  let (chomping, increment, j) ← readHeader? i.next
  let k ← j.skipGap?
  if !k.atLineEnd then none
  let start := k.next
  if start.peek? = some '\t' then none
  let fuel := start.rest.length + 1
  let (column, breaks, l) :=
    if 0 < increment then
      let column := (max indent 0).toNat + increment
      let (breaks, l) := blockIndent column fuel 0 start
      (column, breaks, l)
    else
      let (widest, breaks, l) := blockFirstIndent fuel 0 0 start
      (max widest (indent + 1).toNat, breaks, l)
  if l.rest.isEmpty then
    return (
      if chomping = .strip || l.line = i.line then []
      else if chomping = .keep && 0 < breaks then List.replicate breaks '\n'
      else ['\n'], l)
  if l.column < column && indent < l.column then none
  let (b, stop) := blockLines folded column (l.rest.length + 1) { breaks } l
  let tail :=
    match chomping with
    | .strip => []
    | _ =>
      (if b.ended then ['\n'] else []) ++
        (if stop.rest.isEmpty && max column 1 ≤ stop.column then ['\n'] else []) ++
        if chomping = .keep then List.replicate b.breaks '\n' else []
  return (b.text ++ tail, stop)

end Traceability.Yaml
