set_option autoImplicit false

/-!
# JSON values

The values that reports and editor messages are made of, and their text over several lines.
-/

namespace Traceability

/-- A JSON value.  The fields of an object keep their order. -/
inductive Json where
  | null
  | bool (value : Bool)
  | number (value : Int)
  | text (value : String)
  | array (items : List Json)
  | object (fields : List (String × Json))
  deriving Repr, Inhabited

namespace Json

/-- A value that may be missing. -/
def ofOption {α : Type} (f : α → Json) : Option α → Json
  | none => null
  | some a => f a

/-- A list of values. -/
def ofList {α : Type} (f : α → Json) (xs : List α) : Json := array (xs.map f)

/-- A natural number. -/
def ofNat (n : Nat) : Json := number n

/-! ## Texts -/

/-- A hexadecimal digit, in lower case. -/
def hexDigit (n : Nat) : Char := Nat.digitChar n

/-- A character inside quotes.  Quotes, backslashes and the control characters of ASCII are escaped. -/
def escape (c : Char) : List Char :=
  match c with
  | '"' => ['\\', '"']
  | '\\' => ['\\', '\\']
  | '\n' => ['\\', 'n']
  | '\r' => ['\\', 'r']
  | '\t' => ['\\', 't']
  | '\x08' => ['\\', 'b']
  | '\x0c' => ['\\', 'f']
  | _ =>
    let n := c.toNat
    if n < 0x20 || n = 0x7f then ['\\', 'u', '0', '0', hexDigit (n / 16), hexDigit (n % 16)] else [c]

/-- A text in quotes. -/
def quote (s : String) : String := "\"" ++ String.ofList (s.toList.flatMap escape) ++ "\""

/-! ## Values -/

/-- The blanks in front of a line. -/
def indentation (depth : Nat) : String := String.ofList (List.replicate (2 * depth) ' ')

/-- Parts between brackets, each on lines of its own. -/
def enclose (opening closing : String) (depth : Nat) (parts : List String) : String :=
  if parts.isEmpty then opening ++ closing
  else
    opening ++ "\n" ++ ",\n".intercalate (parts.map (indentation (depth + 1) ++ ·)) ++ "\n" ++
      indentation depth ++ closing

mutual

/-- A value as text over several lines; all but its first line are indented by `depth` steps. -/
def pretty (depth : Nat) : Json → String
  | null => "null"
  | bool value => if value then "true" else "false"
  | number value => toString value
  | text value => quote value
  | array items => enclose "[" "]" depth (prettyItems (depth + 1) items)
  | object fields => enclose "\x7b" "\x7d" depth (prettyFields (depth + 1) fields)

/-- The items of an array as text. -/
def prettyItems (depth : Nat) : List Json → List String
  | [] => []
  | item :: rest => pretty depth item :: prettyItems depth rest

/-- The fields of an object as text. -/
def prettyFields (depth : Nat) : List (String × Json) → List String
  | [] => []
  | (key, value) :: rest => (quote key ++ ": " ++ pretty depth value) :: prettyFields depth rest

end

end Json

end Traceability
