import Traceability.Yaml.Token
set_option autoImplicit false

/-!
# YAML: values

A value is a scalar, a sequence or a mapping.  It is read from tokens, and only as far as it goes: what comes after
the value of the first document does not count, be it good or bad.  Names and types of values are read over.

Each function takes the tokens that come next and gives back those that are left.  The recursion is bounded by a
number that the number of tokens provides, since every second step takes a token.
-/

namespace Traceability.Yaml

/-- A value of a document. -/
inductive Node where
  /-- A text; `plain` if it is not in quotes. -/
  | scalar (plain : Bool) (text : List Char)
  | sequence (items : List Node)
  | mapping (entries : List (Node × Node))
  /-- The value with a name, which is not looked up. -/
  | alias (name : List Char)
  deriving Repr, Inhabited

/-- What stands where a value is missing. -/
def Node.missing : Node := .scalar true []

/-- The tokens after a name and a type, and whether there is one of them. -/
def skipProperties : List Token → Bool × List Token
  | .anchor _ _ :: .tag _ :: rest => (true, rest)
  | .tag _ :: .anchor _ _ :: rest => (true, rest)
  | .anchor _ _ :: rest => (true, rest)
  | .tag _ :: rest => (true, rest)
  | tokens => (false, tokens)

/-- Whether a token ends what is missing in front of it, in a block mapping. -/
def Token.endsEntry : Token → Bool
  | key | value | close => true
  | _ => false

/-- Whether a token ends what is missing in front of it, in brackets that `closing` closes. -/
def Token.endsFlow (closing : Token) (t : Token) : Bool := t = comma || t = closing

mutual

/-- Reads a value.  `inBlock` tells whether it may be a block, and `indentless` whether it may be a sequence whose
dashes are no further indented than the key in front of it. -/
def node? (inBlock indentless : Bool) : Nat → List Token → Option (Node × List Token)
  | 0, _ => none
  | fuel + 1, tokens =>
    let (marked, tokens) := skipProperties tokens
    match tokens with
    | [] => none
    | t :: rest =>
      match t with
      | .scalar plain text => some (.scalar plain text, rest)
      | .leftBracket => flowItems? true [] fuel rest
      | .leftBrace => flowEntries? true [] fuel rest
      | .item => if indentless then indentlessItems? [] fuel tokens else emptyIf marked tokens
      | .openItems => if inBlock then blockItems? [] fuel rest else emptyIf marked tokens
      | .openEntries => if inBlock then blockEntries? [] fuel rest else emptyIf marked tokens
      | .alias name => if marked then some (.missing, tokens) else some (.alias name, rest)
      | _ => emptyIf marked tokens
where
  /-- A value that is missing has at least a name or a type. -/
  emptyIf (marked : Bool) (tokens : List Token) : Option (Node × List Token) :=
    if marked then some (.missing, tokens) else none

/-- The items of a block sequence; `items` have been read, the last one first. -/
def blockItems? (items : List Node) : Nat → List Token → Option (Node × List Token)
  | 0, _ => none
  | fuel + 1, tokens =>
    match tokens with
    | .close :: rest => some (.sequence items.reverse, rest)
    | .item :: rest =>
      if rest.head?.any fun t => t = .item || t = .close then blockItems? (.missing :: items) fuel rest
      else do
        let (item, rest) ← node? true false fuel rest
        blockItems? (item :: items) fuel rest
    | _ => none

/-- The items of a block sequence that ends where no further dash comes. -/
def indentlessItems? (items : List Node) : Nat → List Token → Option (Node × List Token)
  | 0, _ => none
  | fuel + 1, tokens =>
    match tokens with
    | [] => none
    | .item :: rest =>
      if rest.head?.any fun t => t = .item || t.endsEntry then indentlessItems? (.missing :: items) fuel rest
      else do
        let (item, rest) ← node? true false fuel rest
        indentlessItems? (item :: items) fuel rest
    | _ => some (.sequence items.reverse, tokens)

/-- The entries of a block mapping; `entries` have been read, the last one first. -/
def blockEntries? (entries : List (Node × Node)) : Nat → List Token → Option (Node × List Token)
  | 0, _ => none
  | fuel + 1, tokens => do
    match tokens with
    | .close :: rest => return (.mapping entries.reverse, rest)
    | .key :: rest =>
      let (key, rest) ← blockPart? fuel rest
      let (value, rest) ← blockValue? fuel rest
      blockEntries? ((key, value) :: entries) fuel rest
    | .value :: _ =>
      let (value, rest) ← blockValue? fuel tokens
      blockEntries? ((.missing, value) :: entries) fuel rest
    | _ => none

/-- A key or a value of a block mapping, after its sign; it may be missing. -/
def blockPart? : Nat → List Token → Option (Node × List Token)
  | 0, _ => none
  | fuel + 1, tokens =>
    if tokens.head?.any Token.endsEntry then some (.missing, tokens) else node? true true fuel tokens

/-- A value of a block mapping, with its sign; both may be missing. -/
def blockValue? : Nat → List Token → Option (Node × List Token)
  | 0, _ => none
  | fuel + 1, tokens =>
    match tokens with
    | [] => none
    | .value :: rest => blockPart? fuel rest
    | _ => some (.missing, tokens)

/-- The items of a sequence in brackets; `items` have been read, the last one first.  A comma stands between
two of them. -/
def flowItems? (isFirst : Bool) (items : List Node) : Nat → List Token → Option (Node × List Token)
  | 0, _ => none
  | fuel + 1, tokens => do
    match tokens with
    | .rightBracket :: rest => return (.sequence items.reverse, rest)
    | _ =>
      let tokens ←
        match isFirst, tokens with
        | true, _ => some tokens
        | false, .comma :: rest => some rest
        | false, _ => none
      match tokens with
      | .rightBracket :: rest => return (.sequence items.reverse, rest)
      | .key :: rest =>
        let (key, rest) ← flowPairKey? fuel rest
        let (value, rest) ← flowValue? .rightBracket fuel rest
        flowItems? false (.mapping [(key, value)] :: items) fuel rest
      | _ =>
        let (item, rest) ← node? false false fuel tokens
        flowItems? false (item :: items) fuel rest

/-- A key inside a sequence in brackets.  If it is missing, so is the sign after it. -/
def flowPairKey? : Nat → List Token → Option (Node × List Token)
  | 0, _ => none
  | fuel + 1, tokens =>
    match tokens with
    | t :: rest =>
      if t = .value || t.endsFlow .rightBracket then some (.missing, rest) else node? false false fuel tokens
    | [] => none

/-- The entries of a mapping in braces; `entries` have been read, the last one first.  A comma stands between
two of them. -/
def flowEntries? (isFirst : Bool) (entries : List (Node × Node)) : Nat → List Token → Option (Node × List Token)
  | 0, _ => none
  | fuel + 1, tokens => do
    match tokens with
    | .rightBrace :: rest => return (.mapping entries.reverse, rest)
    | _ =>
      let tokens ←
        match isFirst, tokens with
        | true, _ => some tokens
        | false, .comma :: rest => some rest
        | false, _ => none
      match tokens with
      | .rightBrace :: rest => return (.mapping entries.reverse, rest)
      | .key :: rest =>
        let (key, rest) ←
          if rest.head?.any fun t => t = .value || t.endsFlow .rightBrace then some (.missing, rest)
          else node? false false fuel rest
        let (value, rest) ← flowValue? .rightBrace fuel rest
        flowEntries? false ((key, value) :: entries) fuel rest
      | .value :: _ =>
        let (value, rest) ← flowValue? .rightBrace fuel tokens
        flowEntries? false ((.missing, value) :: entries) fuel rest
      | _ =>
        let (key, rest) ← node? false false fuel tokens
        flowEntries? false ((key, .missing) :: entries) fuel rest

/-- A value in brackets, with its sign; both may be missing. -/
def flowValue? (closing : Token) : Nat → List Token → Option (Node × List Token)
  | 0, _ => none
  | fuel + 1, tokens =>
    match tokens with
    | [] => none
    | .value :: rest =>
      if rest.head?.any (Token.endsFlow closing) then some (.missing, rest) else node? false false fuel rest
    | _ => some (.missing, tokens)

end

/-! ## Documents -/

/-- The tokens after the directives of a document and the marker that must follow them. -/
def skipDirectives? (hasVersion : Bool) : List Token → Option (List Token)
  | .documentStart :: rest => some rest
  | .directive isVersion :: rest =>
    if isVersion && hasVersion then none else skipDirectives? (hasVersion || isVersion) rest
  | _ => none

/-- Whether each alias comes after the anchor with its name. -/
def aliasesKnown (names : List (List Char)) : List Token → Bool
  | [] => true
  | .anchor _ name :: rest => aliasesKnown (name :: names) rest
  | .alias name :: rest => names.contains name && aliasesKnown names rest
  | _ :: rest => aliasesKnown names rest

/-- The value of the first document.  A document without one has a missing value. -/
def Node.ofTokens? (tokens : List Token) : Option Node :=
  let body? (tokens : List Token) : Option Node := do
    let (node, rest) ← node? true false (2 * tokens.length + 2) tokens
    if aliasesKnown [] (tokens.take (tokens.length - rest.length)) then some node else none
  let isMissing : Token → Bool
    | .directive _ | .documentStart | .documentEnd | .finish => true
    | _ => false
  match tokens.dropWhile (· = .documentEnd) with
  | .finish :: _ => some .missing
  | rest@(.directive _ :: _) | rest@(.documentStart :: _) => do
    let content ← skipDirectives? false rest
    if content.head?.any isMissing then some .missing else body? content
  | rest => body? rest

/-- The value of the first document of a text; none if it cannot be read. -/
def ofText? (text : String) : Option Node := Node.ofTokens? (Token.ofText text.toList)

end Traceability.Yaml
