import Traceability.Locator.Host
import Traceability.Locator.Route
import Traceability.Path
set_option autoImplicit false

/-!
# Locators

A locator is a uri that has been read and brought into its standard form: the scheme in lower case, dots
resolved, special characters encoded.  The schemes of the web and of files are special: a backslash is as good
as a slash, and there is always a path.  Files have locators, and locators may denote files: what a locator denotes are
the bytes of a path, which need not be text.
-/

namespace Traceability

namespace Locator

/-- Who is asked for a resource. -/
structure Authority where
  /-- The user name and the password, encoded, with a colon between them; empty if there is none. -/
  login : List Char := []
  host : Host := .missing
  port : Option Nat := none
  deriving DecidableEq, Repr, Inhabited

end Locator

/-- A uri in its standard form. -/
structure Locator where
  scheme : List Char
  authority : Option Locator.Authority
  route : Locator.Route
  query : Option (List Char) := none
  fragment : Option (List Char) := none
  deriving DecidableEq, Repr, Inhabited

namespace Locator

/-! ## Text -/

/-- The authority as text. -/
def Authority.text (a : Authority) : List Char :=
  (if a.login.isEmpty then [] else a.login ++ ['@']) ++ a.host.text ++
    match a.port with
    | none => []
    | some port => ':' :: (toString port).toList

/-- A locator as text.  Where a path without an authority would look like an authority, a dot keeps them
apart. -/
def chars (l : Locator) : List Char :=
  let authority :=
    match l.authority, l.route with
    | some a, _ => ['/', '/'] ++ a.text
    | none, .segments ([] :: _ :: _) => ['/', '.']
    | none, _ => []
  l.scheme ++ [':'] ++ authority ++ l.route.text ++ (l.query.map ('?' :: ·)).getD [] ++
    (l.fragment.map ('#' :: ·)).getD []

/-- A locator as a uri. -/
def uri (l : Locator) : String := String.ofList l.chars

/-! ## Schemes -/

/-- The scheme of files. -/
def fileScheme : List Char := ['f', 'i', 'l', 'e']

/-- The schemes of the web and the ports that need not be named with them. -/
def standardPort? (scheme : List Char) : Option Nat :=
  match String.ofList scheme with
  | "http" => some 80
  | "https" => some 443
  | "ws" => some 80
  | "wss" => some 443
  | "ftp" => some 21
  | _ => none

/-- Whether a scheme is special. -/
def isSpecial (scheme : List Char) : Bool := scheme = fileScheme || (standardPort? scheme).isSome

/-- Whether a character may stand in a scheme. -/
def isSchemeChar (c : Char) : Bool := c.isAlphanum || c == '+' || c == '-' || c == '.'

/-- The scheme of a uri, in lower case, and what follows its colon. -/
def readScheme? (s : List Char) : Option (List Char × List Char) :=
  match s, s.dropWhile isSchemeChar with
  | c :: _, ':' :: rest => if c.isAlpha then some ((s.takeWhile isSchemeChar).map Char.toLower, rest) else none
  | _, _ => none

/-! ## Authorities -/

/-- The text up to the colon of a port, and what follows; colons between brackets do not count. -/
def splitPort (inBrackets : Bool) : List Char → List Char × Option (List Char)
  | [] => ([], none)
  | c :: rest =>
    if c = ':' && !inBrackets then ([], some rest)
    else
      let (host, port) := splitPort (if c = '[' then true else if c = ']' then false else inBrackets) rest
      (c :: host, port)

/-- The number of a port, if there is one, and the text after it, which is empty or begins with a backslash. -/
def readPort? (s : List Char) : Option (Option Nat × List Char) := do
  let digits := s.takeWhile Char.isDigit
  let rest := s.drop digits.length
  if rest.head?.any (· != '\\') then none
  let port := Text.number? 10 digits
  if port.any (0xffff < ·) then none
  return (port, rest)

/-- The user name and the password as they are written in a locator. -/
def readLogin (login : List Char) : List Char :=
  let name := login.takeWhile (· != ':')
  let password := (login.dropWhile (· != ':')).drop 1
  percentEncode loginReserved name ++
    (if password.isEmpty then [] else ':' :: percentEncode loginReserved password)

/-- The text before the last sign for a login, if there is one, and the text after it. -/
def splitLogin (s : List Char) : Option (List Char) × List Char :=
  let host := (s.reverse.takeWhile (· != '@')).reverse
  if host.length = s.length then (none, s) else (some (s.take (s.length - host.length - 1)), host)

/-- Reads an authority, and gives back the text after it.  There must be a host if there is anything else, and also
after an empty login, unless the uri ends there. -/
def readAuthority? (scheme : List Char) (isLast : Bool) (s : List Char) : Option (Authority × List Char) := do
  let (login?, rest) := splitLogin s
  if login? = some [] && rest.isEmpty && !isLast then none
  let (hostText, portText) := splitPort false rest
  let host ← if isSpecial scheme then Host.ofSpecial? hostText else Host.ofText? hostText
  let login := readLogin (login?.getD [])
  if host = .missing && (!login.isEmpty || portText.isSome) then none
  let (port, rest) ← readPort? (portText.getD [])
  return ({ login, host, port := if port = standardPort? scheme then none else port }, rest)

/-! ## Reading -/

/-- Whether a character ends the path. -/
def endsPath (c : Char) : Bool := c == '?' || c == '#'

/-- The query and the fragment at the end of a uri. -/
def readTail (special : Bool) (s : List Char) : Option (List Char) × Option (List Char) :=
  let reserved := if special then '\'' :: queryReserved else queryReserved
  let query :=
    match s with
    | '?' :: rest => some (percentEncode reserved (rest.takeWhile (· != '#')))
    | _ => none
  let fragment :=
    match s.dropWhile (· != '#') with
    | '#' :: rest => some (percentEncode fragmentReserved rest)
    | _ => none
  (query, fragment)

/-- The text after a slash. -/
def afterSlash? : List Char → Option (List Char)
  | c :: rest => if isSlash true c then some rest else none
  | [] => none

/-- Reads the authority and the path of a file.  A drive takes the place of a host. -/
def readFile? (s : List Char) : Option (Authority × Route) :=
  let isEnd := isSlash true
  let read (path : List Char) : List (List Char) := readSegments true true path
  let here (path : List Char) : Option (Authority × Route) := some ({}, .segments (dropIdle (read path)))
  match afterSlash? s with
  | none => here s
  | some path =>
    match afterSlash? path with
    | none => here path
    | some rest =>
      let name := rest.takeWhile fun c => !isEnd c
      let path := (rest.dropWhile fun c => !isEnd c).drop 1
      if isDrive name then here rest
      else if name.isEmpty then here path
      else
        (Host.ofSpecial? name).bind fun host =>
          let startsAtDrive := (read path).head?.any isDrive && 1 < (read path).length
          if host = .name Host.here || startsAtDrive then here path
          else some ({ host }, .segments (dropIdle (read path)))

/-- Reads the authority and the path of a web resource. -/
def readWeb? (scheme : List Char) (isLast : Bool) (s : List Char) : Option (Authority × Route) :=
  let isEnd := isSlash true
  let rest := s.dropWhile isEnd
  (readAuthority? scheme isLast (rest.takeWhile fun c => !isEnd c)).map fun (authority, _) =>
    (authority, .segments (readSegments true false ((rest.dropWhile fun c => !isEnd c).drop 1)))

/-- Reads the authority and the path of any other resource. -/
def readOther? (scheme : List Char) (isLast : Bool) (s : List Char) : Option (Option Authority × Route) :=
  let segments (path : List Char) : Route := .segments (readSegments false false path)
  match s with
  | '/' :: '/' :: rest =>
    let path := rest.dropWhile (· != '/')
    (readAuthority? scheme (isLast && path.isEmpty) (rest.takeWhile (· != '/'))).map fun (authority, extra) =>
      (some authority,
        match extra, path with
        | [], [] => .segments []
        | [], _ :: path => segments path
        | extra, path => segments (extra ++ path))
  | '/' :: path => some (none, segments path)
  | _ => some (none, .rootless (percentEncode [] s))

/-- Reads a uri.  Blanks and controls around it do not count, nor do tabs and line endings in it. -/
def ofText? (text : String) : Option Locator := do
  let isEdge (c : Char) := c.toNat ≤ 0x20
  let trimmed := Text.dropEndWhile isEdge (text.toList.dropWhile isEdge)
  let (scheme, rest) ← readScheme? (trimmed.filter fun c => c != '\t' && c != '\n' && c != '\r')
  let head := rest.takeWhile fun c => !endsPath c
  let tail := rest.dropWhile fun c => !endsPath c
  let (query, fragment) := readTail (isSpecial scheme) tail
  let (authority, route) ←
    if scheme = fileScheme then (readFile? head).map fun (a, r) => (some a, r)
    else if isSpecial scheme then (readWeb? scheme tail.isEmpty head).map fun (a, r) => (some a, r)
    else readOther? scheme tail.isEmpty head
  some { scheme, authority, route, query, fragment }

/-! ## Files -/

/-- The uri of the file at a path.  Two dots are kept. -/
def uriOfPath (p : Path) : String :=
  let segments :=
    match p.names with
    | [] => [[]]
    | names => names.map fun name => percentEncode nameReserved name.toList
  (Locator.mk fileScheme (some {}) (.segments segments) none none).uri

/-- The bytes of a path, with a slash behind them if they end in a drive. -/
def closeDrive (bytes : List UInt8) : List UInt8 :=
  let last := (bytes.drop (bytes.length - 2)).map fun b => Char.ofNat b.toNat
  if 2 < bytes.length && isDrive last then bytes ++ [0x2f] else bytes

/-- The bytes of the path that a locator denotes, whatever its scheme: it has no host, or the local one.  They need not
be text. -/
def pathBytes? (l : Locator) : Option (List UInt8) :=
  let host := (l.authority.map Authority.host).getD .missing
  if host ≠ .missing && host ≠ .name Host.here then none
  else
    match l.route with
    | .rootless _ => none
    | .segments [] => none
    | .segments segments => some (closeDrive (segments.flatMap fun s => 0x2f :: percentDecode s))

/-- The path that a locator denotes, if it is text. -/
def path? (l : Locator) : Option Path := l.pathBytes?.bind Path.ofBytes?

theorem path?_of_pathBytes? {l : Locator} {bytes : List UInt8} (h : l.pathBytes? = some bytes) :
    l.path? = Path.ofBytes? bytes := by
  unfold path?
  rw [h, Option.bind_some]

theorem path?_of_pathBytes?_eq_none {l : Locator} (h : l.pathBytes? = none) : l.path? = none := by
  unfold path?
  rw [h, Option.bind_none]

/-- The bytes of the path that a uri denotes. -/
def pathBytesOfUri? (uri : String) : Option (List UInt8) := (ofText? uri).bind pathBytes?

/-- The path that a uri denotes, if it is text. -/
def pathOfUri? (uri : String) : Option Path := (ofText? uri).bind path?

end Locator

end Traceability
