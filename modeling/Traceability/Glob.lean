set_option autoImplicit false

/-!
# Glob patterns

A glob pattern describes a set of paths.  `?` stands for one byte and `*` for any number of them, `[ab-d]` for
one byte of a class and `[!ab]` for one outside it, `{a,b}` for one of several patterns, and a backslash takes the
next character literally.  Two asterisks that make up a whole component stand for any number of components.
A path is matched as a whole, byte by byte.  A path that ends in two dots has no name at its end, so a pattern
that describes a name or its extension does not match it.

Two dialects are in use: one in which a single asterisk also crosses slashes, and one in which it does not.
-/

namespace Traceability

namespace Glob

/-- How a pattern is read. -/
structure Dialect where
  /-- Whether `?` and `*` stand for slashes too. -/
  crossesSlash : Bool
  /-- Whether an opening bracket without a closing one stands for itself. -/
  bracketMayStandAlone : Bool
  deriving DecidableEq, Repr, Inhabited

/-- A part of a pattern. -/
inductive Token where
  | literal (c : Char)
  /-- One byte. -/
  | any
  /-- Any bytes. -/
  | star
  /-- Any components at the start of the path, each with its slash. -/
  | leadingComponents
  /-- A slash and anything after it. -/
  | trailingComponents
  /-- Any components between two slashes, or just one slash. -/
  | innerComponents
  | oneOf (negated : Bool) (ranges : List (Char × Char))
  | choice (branches : List (List Token))
  deriving Repr, Inhabited

/-- Why a text is no pattern. -/
inductive Fault where
  | unclosedClass
  | reversedRange
  | unopenedChoice
  | unclosedChoice
  | danglingEscape
  deriving DecidableEq, Repr, Inhabited

/-! ## Reading classes -/

/-- A class of characters and the text after it. -/
structure ReadClass where
  ranges : List (Char × Char)
  rest : List Char
  deriving Repr, Inhabited

/-- The ranges of a class, without the sign of negation, up to its closing bracket.  `ranges` holds those that
have been read, the last one first; `dash` tells whether a dash has just been read that may join two ends. -/
def readRanges (first dash : Bool) (ranges : List (Char × Char)) : List Char → Except Fault ReadClass
  | [] => .error .unclosedClass
  | c :: rest =>
    if c = ']' && !first then
      .ok ⟨(if dash then ('-', '-') :: ranges else ranges).reverse, rest⟩
    else if c = '-' && !first && !dash then readRanges false true ranges rest
    else
      match dash, ranges with
      | true, (low, _) :: others =>
        if c < low then .error .reversedRange else readRanges false false ((low, c) :: others) rest
      | _, _ => readRanges false false ((c, c) :: ranges) rest

theorem length_rest_readRanges {first dash : Bool} {ranges : List (Char × Char)} {s : List Char}
    {r : ReadClass} (h : readRanges first dash ranges s = .ok r) : r.rest.length < s.length := by
  fun_induction readRanges first dash ranges s with
  | case1 => simp at h
  | case2 => simp_all [← Except.ok.inj h]
  | case3 _ _ _ _ _ _ _ ih => exact Nat.lt_succ_of_lt (ih h)
  | case4 => simp at h
  | case5 _ _ _ _ _ _ _ _ _ ih => exact Nat.lt_succ_of_lt (ih h)
  | case6 _ _ _ _ _ _ _ _ ih => exact Nat.lt_succ_of_lt (ih h)

/-- Whether the text after an opening bracket begins with a sign of negation, and what follows the sign. -/
def readNegation : List Char → Bool × List Char
  | '!' :: rest => (true, rest)
  | '^' :: rest => (true, rest)
  | rest => (false, rest)

theorem length_readNegation_le (s : List Char) : (readNegation s).2.length ≤ s.length := by
  unfold readNegation
  split <;> simp

/-! ## Reading patterns -/

/-- A choice that is still being read: what stands before it, and its finished branches, the last one first. -/
structure OpenChoice where
  before : List Token
  branches : List (List Token)
  deriving Repr, Inhabited

/-- Whether a part of a pattern stands for nothing at all. -/
def Token.isVoid : Token → Bool
  | choice [] => true
  | _ => false

/-- Whether two asterisks may make up a component after a character.  In a choice a comma or an opening brace is
as good as a slash, even if it is taken literally. -/
def startsComponent (inChoice : Bool) (before : Option Char) : Bool :=
  before = some '/' || (inChoice && (before = some ',' || before = some '\x7b'))

/-- The parts for two asterisks, when the last character read before them is `before`, the parts read so far
in this branch are `current`, the last one first, and `rest` follows.  Also tells whether the next character is
read with them. -/
def doubleStar (before : Option Char) (inChoice : Bool) (current : List Token) (rest : List Char) :
    List Token × Bool :=
  let plain := (.star :: .star :: current, false)
  match current with
  | [] =>
    match rest with
    | [] => ([.leadingComponents], false)
    | c :: _ => if c = '/' then ([.leadingComponents], true) else plain
  | last :: others =>
    if !startsComponent inChoice before then plain
    else
      let replaced (t : Token) : List Token :=
        match last with
        | .leadingComponents => .leadingComponents :: others
        | .trailingComponents => .trailingComponents :: others
        | _ => t :: others
      match rest with
      | [] => (replaced .trailingComponents, false)
      | c :: _ =>
        if c = '/' then (replaced .innerComponents, true)
        else if inChoice && (c = ',' || c = '\x7d') then (replaced .trailingComponents, false)
        else plain

/-- Reads the rest of a pattern.  `before` is the last character read, `outer` holds the choices that are still
open, the innermost first, and `current` the parts of the branch being read, the last one first. -/
def read (d : Dialect) (before : Option Char) (outer : List OpenChoice) (current : List Token) :
    List Char → Except Fault (List Token)
  | [] => if outer.isEmpty then .ok current.reverse else .error .unclosedChoice
  | '*' :: '*' :: rest =>
    let stars := doubleStar before (!outer.isEmpty) current rest
    if stars.2 then
      match rest with
      | [] => read d (some '*') outer stars.1 []
      | c :: rest => read d (some c) outer stars.1 rest
    else read d (some '*') outer stars.1 rest
  | '\\' :: rest =>
    match rest with
    | [] => .error .danglingEscape
    | c :: rest => read d (some c) outer (.literal c :: current) rest
  | '[' :: rest =>
    have := length_readNegation_le rest
    match h : readRanges true false [] (readNegation rest).2 with
    | .ok found =>
      have := length_rest_readRanges h
      read d (some ']') outer (.oneOf (readNegation rest).1 found.ranges :: current) found.rest
    | .error .unclosedClass =>
      if d.bracketMayStandAlone then read d (some '[') outer (.literal '[' :: current) rest
      else .error .unclosedClass
    | .error fault => .error fault
  | c :: rest =>
    match c, outer with
    | '?', _ => read d (some c) outer (.any :: current) rest
    | '*', _ => read d (some c) outer (.star :: current) rest
    | '\x7b', _ => read d (some c) (⟨current, []⟩ :: outer) [] rest
    | ',', inner :: others =>
      read d (some c) ({ inner with branches := current.reverse :: inner.branches } :: others) [] rest
    | '\x7d', inner :: others =>
      let branches := (current.reverse :: inner.branches).reverse.filter fun b => !b.all Token.isVoid
      read d (some c) others (.choice branches :: inner.before) rest
    | '\x7d', [] => .error .unopenedChoice
    | _, _ => read d (some c) outer (.literal c :: current) rest
termination_by s => s.length
decreasing_by all_goals simp only [List.length_cons] at *; omega

/-! ## Matching -/

/-- The bytes of a class: a character of several bytes counts as these bytes, a range reaches from the last
byte of its first end to the first byte of its second end. -/
def classBytes (range : Char × Char) : List (UInt8 × UInt8) :=
  let alone (bs : List UInt8) := bs.map fun b => (b, b)
  let low := String.utf8EncodeChar range.1
  if range.1 = range.2 then alone low
  else
    let high := String.utf8EncodeChar range.2
    alone low.dropLast ++ (low.getLast?.bind fun l => high.head?.map fun h => (l, h)).toList ++ alone high.tail

/-- Whether a byte belongs to one of the ranges of a class. -/
def inClass (ranges : List (Char × Char)) (b : UInt8) : Bool :=
  (ranges.flatMap classBytes).any fun (low, high) => low ≤ b && b ≤ high

/-- The byte of a slash. -/
def slash : UInt8 := 0x2f

/-- Whether `?` and `*` may stand for a byte. -/
def Dialect.wild (d : Dialect) (b : UInt8) : Bool := d.crossesSlash || b != slash

/-- The texts that are left after some bytes that satisfy `p` have been taken from the front. -/
def restsAfter (p : UInt8 → Bool) : List UInt8 → List (List UInt8)
  | [] => [[]]
  | b :: rest => (b :: rest) :: (if p b then restsAfter p rest else [])

/-- The texts after each slash. -/
def restsAfterSlash : List UInt8 → List (List UInt8)
  | [] => []
  | b :: rest => if b = slash then rest :: restsAfterSlash rest else restsAfterSlash rest

mutual

/-- Whether a part of a pattern can be taken from the front so that `more` accepts what is left. -/
def Token.accepts (d : Dialect) : Token → (List UInt8 → Bool) → List UInt8 → Bool
  | .literal c, more, s =>
    (String.utf8EncodeChar c).isPrefixOf s && more (s.drop (String.utf8EncodeChar c).length)
  | .any, more, s =>
    match s with
    | [] => false
    | b :: rest => d.wild b && more rest
  | .star, more, s => (restsAfter d.wild s).any more
  | .leadingComponents, more, s => more s || (restsAfterSlash s).any more
  | .trailingComponents, more, s =>
    match s with
    | [] => false
    | b :: rest => b == slash && (restsAfter (fun _ => true) rest).any more
  | .innerComponents, more, s =>
    match s with
    | [] => false
    | b :: rest => b == slash && (more rest || (restsAfterSlash rest).any more)
  | .oneOf negated ranges, more, s =>
    match s with
    | [] => false
    | b :: rest => (inClass ranges b != negated) && more rest
  | .choice [], more, s => more s
  | .choice branches, more, s => someAccepts d branches more s

/-- The same for the parts of a pattern in a row. -/
def allAccept (d : Dialect) : List Token → (List UInt8 → Bool) → List UInt8 → Bool
  | [], more, s => more s
  | t :: ts, more, s => t.accepts d (allAccept d ts more) s

/-- The same for one of several patterns. -/
def someAccepts (d : Dialect) : List (List Token) → (List UInt8 → Bool) → List UInt8 → Bool
  | [], _, _ => false
  | b :: bs, more, s => allAccept d b more s || someAccepts d bs more s

end

/-! ## Names -/

/-- Whether a part of a pattern is a character that satisfies a test. -/
def Token.isLiteral (p : Char → Bool) : Token → Bool
  | literal c => p c
  | _ => false

/-- The parts of a pattern after any components at its start, and whether there are such components. -/
def afterLeading : List Token → Bool × List Token
  | .leadingComponents :: rest => (true, rest)
  | tokens => (false, tokens)

/-- The parts of a pattern after an asterisk, if it stands for everything there. -/
def afterStar (d : Dialect) : List Token → List Token
  | .star :: rest => if d.crossesSlash then rest else .star :: rest
  | tokens => tokens

/-- Whether a pattern is a name at any depth. -/
def isNameOnly (tokens : List Token) : Bool :=
  let (anywhere, rest) := afterLeading tokens
  anywhere && !rest.isEmpty && rest.all (Token.isLiteral (· != '/'))

/-- Whether a pattern is an asterisk with an extension, at any depth. -/
def isExtensionOnly (d : Dialect) (tokens : List Token) : Bool :=
  match afterLeading tokens with
  | (anywhere, .star :: .literal '.' :: rest) =>
    (anywhere || d.crossesSlash) && rest.all (Token.isLiteral fun c => c != '.' && c != '/')
  | _ => false

/-- Whether a pattern is nothing but the end of a path. -/
def isEndOnly (d : Dialect) (tokens : List Token) : Bool :=
  let rest := afterStar d (afterLeading tokens).2
  !rest.isEmpty && rest.all (Token.isLiteral fun _ => true)

/-- Whether a pattern ends in an extension. -/
def endsInExtension (tokens : List Token) : Bool :=
  let isPlain : Token → Bool := Token.isLiteral fun c => c != '.' && c != '/'
  (tokens.reverse.dropWhile isPlain).head?.any (Token.isLiteral (· == '.'))

/-- Whether a pattern describes a name or the extension of one, and not just any text at the end of a path. -/
def describesName (d : Dialect) (tokens : List Token) : Bool :=
  isNameOnly tokens || isExtensionOnly d tokens || (!isEndOnly d tokens && endsInExtension tokens)

/-- Whether the last component of a path is two dots. -/
def endsInParent (path : List Char) : Bool := path = ['.', '.'] || ['/', '.', '.'].isSuffixOf path

end Glob

/-- A pattern that has been read. -/
structure Glob where
  dialect : Glob.Dialect
  tokens : List Glob.Token
  deriving Repr, Inhabited

namespace Glob

/-- Reads a pattern. -/
def ofText (d : Dialect) (pattern : List Char) : Except Fault Glob := (⟨d, ·⟩) <$> read d none [] [] pattern

/-- Whether a path matches the pattern.  Two asterisks alone match every path. -/
def isMatch (g : Glob) (path : List Char) : Bool :=
  match g.tokens with
  | [.leadingComponents] => true
  | tokens =>
    !(endsInParent path && describesName g.dialect tokens) &&
      allAccept g.dialect tokens List.isEmpty (path.flatMap String.utf8EncodeChar)

end Glob

end Traceability
