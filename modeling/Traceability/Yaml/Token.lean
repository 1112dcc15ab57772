import Traceability.Yaml.Scalar
set_option autoImplicit false

/-!
# YAML: tokens

A text is a row of tokens: brackets and signs, scalars, and the marks of what indentation opens and closes.

A key is only known by the colon after it, so the place where one may have begun is kept as a `PendingKey` until
the colon comes or no longer can; then the tokens that open a mapping and announce the key are put in front of
it.  A text with a fault still has the tokens that are settled before the fault: `Token.ofText` gives those, and
they end in `finish` if there is no fault.
-/

namespace Traceability.Yaml

/-- A part of a text. -/
inductive Token where
  /-- The marker that opens a document. -/
  | documentStart
  /-- The marker that closes a document. -/
  | documentEnd
  /-- A line with a percent sign; `isVersion` if it gives the version of the language. -/
  | directive (isVersion : Bool)
  /-- A block sequence begins. -/
  | openItems
  /-- A block mapping begins. -/
  | openEntries
  /-- A block sequence or mapping ends. -/
  | close
  | leftBracket
  | rightBracket
  | leftBrace
  | rightBrace
  | comma
  /-- An item of a block sequence follows. -/
  | item
  /-- A key follows. -/
  | key
  /-- A value follows. -/
  | value
  | scalar (plain : Bool) (text : List Char)
  /-- A name for the node that follows, at a column. -/
  | anchor (column : Nat) (name : List Char)
  /-- A type for the node that follows, at a column. -/
  | tag (column : Nat)
  /-- The node with a name. -/
  | alias (name : List Char)
  /-- The text ends. -/
  | finish
  deriving DecidableEq, Repr, Inhabited

/-- A place where a key may have begun. -/
structure PendingKey where
  /-- The number of tokens before it. -/
  position : Nat
  index : Nat
  line : Nat
  column : Nat
  /-- Whether nothing but a key may stand there. -/
  required : Bool
  deriving Repr, Inhabited

/-- A step of indentation. -/
structure Level where
  /-- The column of what is around it. -/
  outer : Int
  /-- Whether a block begins with it. -/
  isBlock : Bool
  deriving Repr, Inhabited

/-- A text that is cut into tokens. -/
structure Reader where
  input : Input
  /-- The tokens that have been read, the last one first. -/
  tokens : List Token := []
  /-- The number of these tokens. -/
  count : Nat := 0
  /-- The pending key outside brackets and inside each open bracket, the innermost first. -/
  keys : List (Option PendingKey) := [none]
  /-- Whether a key may begin here. -/
  allowsKey : Bool := true
  /-- The column of the innermost step of indentation. -/
  indent : Int := -1
  levels : List Level := []
  /-- Where a value may follow its colon without a blank. -/
  adjacentAt : Nat := 0
  /-- Whether the entries that come next already belong to a mapping. -/
  inMapping : Bool := false
  /-- For each open square bracket the number of brackets around the entry without braces in it, if there is
  one. -/
  pairs : List (Option Nat) := []
  deriving Repr, Inhabited

namespace Reader

/-- The number of brackets that are open. -/
def depth (r : Reader) : Nat := r.keys.length - 1

/-- Whether a bracket is open. -/
def inFlow (r : Reader) : Bool := 0 < r.depth

/-- Adds a token after so many others. -/
def insertAt (r : Reader) (position : Nat) (t : Token) : Reader :=
  { r with tokens := r.tokens.insertIdx (r.count - position) t, count := r.count + 1 }

/-- Adds a token at the end. -/
def push (r : Reader) (t : Token) : Reader := { r with tokens := t :: r.tokens, count := r.count + 1 }

/-! ## Pending keys -/

/-- Remembers that a key may begin here. -/
def saveKey (r : Reader) : Reader :=
  if !r.allowsKey then r
  else
    let required := !r.inFlow && r.indent = r.input.column && r.levels.head?.any (·.isBlock)
    let key : PendingKey :=
      { position := r.count, index := r.input.index, line := r.input.line, column := r.input.column,
        required }
    { r with keys := some key :: r.keys.tail }

/-- Gives up the pending key. -/
def dropKey? (r : Reader) : Option Reader :=
  if r.keys.head?.join.any (·.required) then none else some { r with keys := none :: r.keys.tail }

/-- The greatest length of a key. -/
def longestKey : Nat := 1024

/-- Gives up pending keys that have become too long or have been left behind on an earlier line. -/
def dropStaleKeys? (r : Reader) : Option Reader :=
  let isStale (key : PendingKey) : Bool :=
    key.line < r.input.line || key.index + longestKey < r.input.index
  match r.keys with
  | [some key] => if isStale key then r.dropKey? else some r
  | _ => some r

/-- The number of tokens that no later key can come before. -/
def settled (r : Reader) : Nat := r.keys.foldl (fun n key => key.elim n fun key => min n key.position) r.count

/-- The first tokens, up to a number. -/
def firstTokens (r : Reader) (n : Nat) : List Token := (r.tokens.drop (r.count - n)).reverse

/-! ## Indentation -/

/-- Ends the blocks that are indented further than a column. -/
def unroll (column : Int) (r : Reader) : Reader :=
  if r.inFlow then r
  else
    let rec close : List Level → Reader → Reader
      | [], r => r
      | level :: outer, r =>
        if column < r.indent then
          let r := { r with levels := outer, indent := level.outer }
          close outer (if level.isBlock then r.push .close else r)
        else r
    close r.levels r

/-- Leaves the steps of indentation that no block has begun with. -/
def unrollHanging (r : Reader) : Reader :=
  let rec leave : List Level → Int → Reader
    | [], indent => { r with levels := [], indent }
    | level :: outer, indent =>
      if level.isBlock then { r with levels := level :: outer, indent } else leave outer level.outer
  leave r.levels r.indent

/-- Begins a block at a column, if it is indented further; the token for it comes at a position. -/
def roll (column : Nat) (position : Nat) (t : Token) (r : Reader) : Reader :=
  if r.inFlow then r
  else
    let r :=
      match r.levels with
      | ⟨outer, false⟩ :: levels => if r.indent ≤ column then { r with levels, indent := outer } else r
      | _ => r
    if r.indent < (column : Int) then
      { r with levels := ⟨r.indent, true⟩ :: r.levels, indent := (column : Int) }.insertAt position t
    else r

/-- Indents what follows by one column, as it belongs to a block. -/
def rollHanging (r : Reader) : Reader :=
  match r.levels with
  | ⟨_, true⟩ :: _ =>
    if r.inFlow then r else { r with levels := ⟨r.indent, false⟩ :: r.levels, indent := r.indent + 1 }
  | _ => r

/-! ## Gaps -/

/-- The reader at the next token, over gaps, comments and line endings.  Tabs do not indent what belongs to a
block. -/
def skipGaps? : Nat → Reader → Option Reader
  | 0, _ => none
  | fuel + 1, r =>
    match r.input.rest with
    | ' ' :: _ => skipGaps? fuel { r with input := r.input.next }
    | '\t' :: _ =>
      if !r.levels.isEmpty && r.input.leading && r.input.column < r.indent then
        match r.input.skipGap? with
        | some i => if i.atLineEnd then skipGaps? fuel { r with input := i } else none
        | none => none
      else skipGaps? fuel { r with input := r.input.next }
    | '\n' :: _ => skipGaps? fuel { r with input := r.input.next, allowsKey := r.allowsKey || !r.inFlow }
    | '#' :: _ => skipGaps? fuel { r with input := r.input.skipLine }
    | _ => some r

/-- The reader at the next token. -/
def nextToken? (r : Reader) : Option Reader := skipGaps? (r.input.rest.length + 1) r

/-- The reader after some more characters and the gap behind them. -/
def advanceOver? (count : Nat) (r : Reader) : Option Reader :=
  (r.input.advance count).skipGap?.map fun input => { r with input }

/-! ## Signs -/

/-- Reads the end of the text. -/
def finish? (r : Reader) : Option Reader :=
  if r.keys.any (·.any (·.required)) then none
  else
    let r := { r with keys := r.keys.map fun _ => none }.unroll (-1)
    some ({ r with allowsKey := false }.push .finish)

/-- Reads the marker of a document. -/
def marker? (t : Token) (r : Reader) : Option Reader := do
  let r ← (r.unroll (-1)).dropKey?
  return { r with allowsKey := false, input := r.input.advance 3 }.push t

/-- A number of the version in a directive, of one digit or more. -/
def versionNumber? (i : Input) : Option Input :=
  let j := i.skipWhile Char.isDigit
  if j.index = i.index || i.index + 9 < j.index then none else some j

/-- Reads a directive. -/
def directive? (r : Reader) : Option Reader := do
  let r ← (r.unroll (-1)).dropKey?
  let start := r.input.next
  let name := start.rest.takeWhile isWordChar
  let i := start.skipWhile isWordChar
  if name.isEmpty || !gapFollows i.rest then none
  let isVersion := String.ofList name = "YAML"
  let i ←
    if isVersion then do
      let major ← versionNumber? (i.skipWhile isBlank)
      if major.peek? = some '.' then versionNumber? major.next else none
    else some i.skipLine
  let i ← i.skipGap?
  if i.atLineEnd then return { r with allowsKey := false, input := i.next }.push (.directive isVersion) else none

/-- Reads an opening bracket. -/
def openBracket? (t : Token) (r : Reader) : Option Reader := do
  let r := r.saveKey.rollHanging
  if 255 ≤ r.depth then none
  let r := { r with keys := none :: r.keys, allowsKey := true }
  let r := if t = .leftBrace then { r with inMapping := true } else { r with pairs := none :: r.pairs }
  let r ← r.advanceOver? 1
  return r.push t

/-- Ends the entry without braces in a square bracket, if it is one at this depth. -/
def closePair (depth : Nat) (r : Reader) : Reader :=
  match r.pairs with
  | some d :: pairs => if d = depth then { r with pairs := none :: pairs, inMapping := false }.push .rightBrace else r
  | _ => r

/-- Reads a closing bracket.  One that closes nothing is a token too, which no grammar takes. -/
def closeBracket? (t : Token) (r : Reader) : Option Reader := do
  let depth := r.depth
  let r ← r.dropKey?
  let r := { r with keys := if r.inFlow then r.keys.tail else r.keys, allowsKey := false }
  let r :=
    if t = .rightBracket then
      let r := r.closePair depth
      { r with pairs := r.pairs.tail }
    else r
  let r ← r.advanceOver? 1
  let r := if r.inFlow then { r with adjacentAt := r.input.index } else r
  return r.push t

/-- Reads a comma between brackets. -/
def comma? (r : Reader) : Option Reader := do
  let r ← r.dropKey?
  let r := { r with allowsKey := true }.closePair r.depth
  let r ← r.advanceOver? 1
  return r.push .comma

/-- Reads the dash of an item. -/
def item? (r : Reader) : Option Reader := do
  if r.inFlow || !r.allowsKey then none
  let misplaced :=
    match r.tokens with
    | .anchor column _ :: _ | .tag column :: _ => column = 0 && r.input.column = 0 && -1 < r.indent
    | _ => false
  if misplaced then none
  let start := r.input.next
  let r := r.roll r.input.column r.count .openItems
  let r ← r.advanceOver? 1
  let hasTabs := (start.rest.takeWhile isBlank).contains '\t'
  if hasTabs && r.input.peek? = some '-' && gapFollows r.input.next.rest then none
  let r := if r.input.sees fun c => c = '\n' || isFlowMark c then r.rollHanging else r
  let r ← r.dropKey?
  return { r with allowsKey := true }.push .item

/-- The reader after the gaps, comments and line endings behind a question mark. -/
def skipKeyGaps : Nat → Reader → Reader
  | 0, r => r
  | fuel + 1, r =>
    match r.input.rest with
    | ' ' :: _ => skipKeyGaps fuel { r with input := r.input.next }
    | '\n' :: _ => skipKeyGaps fuel { r with input := r.input.next, allowsKey := r.allowsKey || !r.inFlow }
    | '#' :: _ => skipKeyGaps fuel { r with input := r.input.skipLine }
    | _ => r

/-- Reads the question mark of a key. -/
def key? (r : Reader) : Option Reader := do
  let r ←
    if r.inFlow then some { r with inMapping := true }
    else if r.allowsKey then some (r.roll r.input.column r.count .openEntries)
    else none
  let r ← r.dropKey?
  let r := { r with allowsKey := !r.inFlow, input := r.input.next }
  if !r.input.sees fun c => c = ' ' || c = '\n' then none
  let r := skipKeyGaps (r.input.rest.length + 1) r
  if r.input.peek? = some '\t' then none else return r.push .key

/-- The input after the colon of a value.  If a tab follows, it may not stand alone before a word. -/
def afterColon? (i : Input) : Option Input :=
  if i.peek? ≠ some '\t' then some i
  else do
    let j ← i.skipGap?
    let isSpaced := (i.rest.takeWhile isBlank).contains ' '
    if !isSpaced && j.sees isWordChar then none else some j

/-- Reads the colon of a value.  If a key is pending, it is settled now. -/
def value? (r : Reader) : Option Reader := do
  let line := r.input.line
  let column := r.input.column
  let isPair := !r.pairs.isEmpty && !r.inMapping
  let r := if isPair then { r with pairs := some r.depth :: r.pairs.tail } else r
  let input ← afterColon? r.input.next
  let r := { r with input }
  match r.keys.head?.join with
  | some key =>
    let r := r.insertAt key.position .key
    if isPair && key.line < line then none
    let r := if isPair then r.insertAt key.position .leftBrace else r
    let r := (r.roll key.column key.position .openEntries).rollHanging
    return { r with keys := none :: r.keys.tail, allowsKey := false }.push .value
  | none =>
    let r := if isPair then r.push .leftBrace else r
    if !r.inFlow && !r.allowsKey then none
    let r := (r.roll column r.count .openEntries).rollHanging
    return { r with allowsKey := !r.inFlow }.push .value

/-- Reads the colon of a value that follows without a blank. -/
def adjacentValue? (r : Reader) : Option Reader :=
  if r.input.index ≠ r.adjacentAt && r.input.next.sees fun c => c = '[' || c = '\x7b' then none else r.value?

/-! ## Scalars and properties -/

/-- Reads a plain scalar. -/
def plain? (r : Reader) : Option Reader := do
  let r := { r.saveKey with allowsKey := false }.unrollHanging
  let (text, input) ← plainScalar? r.inFlow (r.indent + 1) r.input
  return { r with input, allowsKey := input.leading }.push (.scalar true text)

/-- Reads a scalar in quotes. -/
def quoted? (double : Bool) (r : Reader) : Option Reader := do
  let r := { r.saveKey with allowsKey := false }
  let (text, input) ← quotedScalar? double r.inFlow r.indent r.input
  let r ← { r with input }.nextToken?
  return { r with adjacentAt := r.input.index }.push (.scalar false text)

/-- Reads a block scalar. -/
def block? (folded : Bool) (r : Reader) : Option Reader := do
  let r := { r.saveKey with allowsKey := true }.unrollHanging
  let (text, input) ← blockScalar? folded r.indent r.input
  return { r with input }.push (.scalar false text)

/-- Reads the name of an anchor or an alias. -/
def named? (token : List Char → Token) (r : Reader) : Option Reader :=
  let isNameChar (c : Char) : Bool := !isBlank c && c != '\n' && !isFlowMark c && c != '\ufeff'
  let r := { r.saveKey with allowsKey := false }
  let name := r.input.next.rest.takeWhile isNameChar
  if name.isEmpty then none
  else some ({ r with input := r.input.next.skipWhile isNameChar }.push (token name))

/-- The input after a tag.  Tags with a handle of their own are not known. -/
def skipTag? (i : Input) : Option Input :=
  let isUriChar (c : Char) : Bool := c.isAlphanum || "-#;/?:@&=+$,_.!~*'()[]%".toList.contains c
  let isTagChar (c : Char) : Bool := isUriChar c && !isFlowMark c && c != '!'
  if i.next.peek? = some '<' then
    let j := i.next.next.skipWhile isUriChar
    if j.peek? = some '>' then some j.next else none
  else
    let handle := i.next.skipWhile isWordChar
    if handle.peek? ≠ some '!' then some (i.next.skipWhile isTagChar)
    else if handle.index = i.index + 1 && handle.next.sees isTagChar then some (handle.next.skipWhile isTagChar)
    else none

/-- Reads a tag. -/
def tag? (r : Reader) : Option Reader := do
  let r := { r.saveKey with allowsKey := false }
  let input ← skipTag? r.input
  if gapFollows input.rest || (r.inFlow && input.sees isFlowMark) then
    return { r with input }.push (.tag r.input.column)
  else none

/-! ## Reading -/

/-- Reads what stands here. -/
def read? (r : Reader) : Option Reader :=
  let i := r.input
  match i.rest with
  | [] => r.finish?
  | c :: rest =>
    if i.column = 0 && c = '%' then r.directive?
    else if i.column = 0 && startsMarker '-' i.rest then r.marker? .documentStart
    else if i.column = 0 && startsMarker '.' i.rest then do
      let r ← r.marker? .documentEnd
      let input ← r.input.skipGap?
      if input.atLineEnd then return { r with input } else none
    else if i.column < r.indent && !(r.inFlow && (c = ']' || c = '\x7d' || c = ',')) then none
    else
      match c with
      | '[' => r.openBracket? .leftBracket
      | '\x7b' => r.openBracket? .leftBrace
      | ']' => r.closeBracket? .rightBracket
      | '\x7d' => r.closeBracket? .rightBrace
      | ',' => r.comma?
      | '*' => r.named? .alias
      | '&' => r.named? (.anchor i.column)
      | '!' => r.tag?
      | '\'' => r.quoted? false
      | '"' => r.quoted? true
      | '%' | '@' | '\x60' => none
      | _ =>
        if c = '-' && gapFollows rest then r.item?
        else if c = '?' && gapFollows rest then r.key?
        else if c = ':' && gapFollows rest then r.value?
        else if c = ':' && r.inFlow && (rest.head?.any isFlowMark || i.index = r.adjacentAt) then r.adjacentValue?
        else if (c = '|' || c = '>') && !r.inFlow then r.block? (c = '>')
        else r.plain?

/-- Reads one token or more. -/
def step? (r : Reader) : Option Reader := do
  let r ← r.nextToken?
  let r ← r.dropStaleKeys?
  (r.unroll r.input.column).read?

/-- The tokens up to the end of the text, or those settled before the first fault; `settled` of them are so
already. -/
def run : Nat → Nat → Reader → List Token
  | 0, settled, r => r.firstTokens settled
  | fuel + 1, settled, r =>
    let settled :=
      match r.dropStaleKeys? with
      | some r => r.settled
      | none => settled
    match r.step? with
    | none => r.firstTokens settled
    | some r => if r.tokens.head? = some .finish then r.tokens.reverse else run fuel settled r

end Reader

/-- Text whose lines end in line feeds, up to the first null character. -/
def normalizeBreaks : List Char → List Char
  | '\r' :: '\n' :: rest => '\n' :: normalizeBreaks rest
  | '\r' :: rest => '\n' :: normalizeBreaks rest
  | c :: rest => if c.toNat = 0 then [] else c :: normalizeBreaks rest
  | [] => []

/-- The tokens of a text, as far as they are settled. -/
def Token.ofText (text : List Char) : List Token :=
  let input : Input := { rest := normalizeBreaks text }
  Reader.run (input.rest.length + 2) 0 { input }

end Traceability.Yaml
