import Lookout.Url.Percent
import Lookout.Url.Ip
import Lookout.Url.Domain
/-!
# Addresses

An address is read in one way only, whoever reads it: blanks and controls around it and line breaks
and tabs inside it do not count, letters of the scheme and of a domain name are lower case, the
path is free of dot segments, and every part is percent encoded where it has to be.

The schemes of the web (`http`, `https`, `ws`, `wss`, `ftp`) are special: they always have a host,
a backslash in them is a slash, and their default port is left out.
-/

namespace Lookout

/-- A host. -/
inductive Host where
  /-- A name; it may be empty if the scheme is not special. -/
  | domain (name : String)
  /-- An address of 32 bits. -/
  | ipv4 (value : Nat)
  /-- An address of eight pieces of 16 bits. -/
  | ipv6 (pieces : List Nat)
  deriving DecidableEq, Repr

/-- An address, taken apart. -/
structure Url where
  /-- The scheme, in lower case. -/
  scheme : String
  /-- The user name and the password, encoded. -/
  userinfo : String := ""
  /-- The host, if the address has one. -/
  host : Option Host := none
  /-- The port, if it is not the scheme's own. -/
  port : Option Nat := none
  /-- The path, encoded. -/
  path : String := ""
  /-- What follows the question mark, encoded. -/
  query : Option String := none
  /-- What follows the number sign, encoded. -/
  fragment : Option String := none
  deriving DecidableEq, Repr

namespace Url

/-! ## The parts -/

/-- What an address of the given scheme is. -/
inductive SchemeKind where
  /-- A file. -/
  | file
  /-- A special scheme and its port. -/
  | special (port : Nat)
  /-- Anything else. -/
  | other
  deriving DecidableEq, Repr

/-- The kind of a scheme. -/
def schemeKind : String → SchemeKind
  | "http" => .special 80
  | "ws" => .special 80
  | "https" => .special 443
  | "wss" => .special 443
  | "ftp" => .special 21
  | "file" => .file
  | _ => .other

/-- Backslashes count as slashes. -/
def SchemeKind.isSpecial : SchemeKind → Bool
  | .other => false
  | _ => true

/-- The characters that count: none at or below the space at either end, no line break and no
tab. -/
def significant (text : String) : List Char :=
  let inner := (text.toList.dropWhile (·.toNat ≤ 0x20)).reverse.dropWhile (·.toNat ≤ 0x20)
  inner.reverse.filter fun c => c != '\t' && c != '\n' && c != '\r'

/-- A character that may stand in a scheme after its first letter. -/
def inScheme (c : Char) : Bool := c.isAlphanum || c == '+' || c == '-' || c == '.'

/-- The scheme, in lower case, and what follows the colon. -/
def splitScheme (cs : List Char) : Option (String × List Char) :=
  match cs.head?, cs.span inScheme with
  | some first, (name, ':' :: rest) =>
    if first.isAlpha then some (String.ofList (name.map (·.toLower)), rest) else none
  | _, _ => none

/-- The authority ends before this character. -/
def endsAuthority (special : Bool) (c : Char) : Bool :=
  c == '/' || c == '?' || c == '#' || (special && c == '\\')

/-- What stands before and after the last at sign, if there is one. -/
def atLastAt (cs : List Char) : Option (List Char × List Char) :=
  match cs.reverse.span (· != '@') with
  | (after, '@' :: before) => some (before.reverse, after.reverse)
  | _ => none

/-- User name and password, encoded, with a colon between them only if there is a password. -/
def readUserinfo (cs : List Char) : String :=
  let (name, rest) := cs.span (· != ':')
  let password := percentEncode userinfoSet rest.tail
  let name := percentEncode userinfoSet name
  String.ofList (if password.isEmpty then name else name ++ ':' :: password)

/-- Cut the host off a host and port: at the first colon outside brackets. -/
def splitHost (inBrackets : Bool) : List Char → List Char × List Char
  | [] => ([], [])
  | c :: cs =>
    if c == ':' && !inBrackets then ([], c :: cs)
    else
      let (host, rest) := splitHost ((inBrackets || c == '[') && c != ']') cs
      (c :: host, rest)

/-- The inside of brackets around a host. -/
def insideBrackets? : List Char → Option (Except UrlError (List Char))
  | '[' :: cs => some (if cs.getLast? = some ']' then .ok cs.dropLast else .error .invalidIpv6)
  | _ => none

/-- Read the host of a special scheme. -/
def readHost (cs : List Char) : Except UrlError Host :=
  match insideBrackets? cs with
  | some inside => do return .ipv6 (← ipv6 (← inside))
  | none => do
    let name ← domainToAscii (percentDecode (String.ofList cs).toUTF8.toList)
    if name.isEmpty then .error .emptyHost
    else if endsInNumber name then return .ipv4 (← ipv4 name)
    else return .domain (String.ofList name)

/-- A character that no host may hold. -/
def forbiddenInHost (c : Char) : Bool :=
  ['\x00', '\t', '\n', '\r', ' ', '#', '/', ':', '<', '>', '?', '@', '[', '\\', ']', '^',
    '|'].contains c

/-- Read the host of a scheme that is not special; it is taken as it is. -/
def readOpaqueHost (cs : List Char) : Except UrlError Host :=
  match insideBrackets? cs with
  | some inside => do return .ipv6 (← ipv6 (← inside))
  | none =>
    if cs.any forbiddenInHost then .error .invalidHostCharacter
    else .ok (.domain (String.ofList (percentEncode [] cs)))

/-- Read what follows the host: nothing, or a colon and a port.  `none` stands for the scheme's own
port. -/
def readPort (own : Option Nat) : List Char → Except UrlError (Option Nat)
  | [] => .ok none
  | _ :: digits =>
    match valueIn? 10 digits with
    | none => .error .invalidPort
    | some n =>
      if 65535 < n then .error .invalidPort
      else .ok (if digits.isEmpty ∨ own = some n then none else some n)

/-! ## The path -/

/-- A segment that stands for the folder itself. -/
def isSingleDot (segment : List Char) : Bool :=
  [".", "%2e"].contains (String.ofList (segment.map (·.toLower)))

/-- A segment that stands for the folder above. -/
def isDoubleDot (segment : List Char) : Bool :=
  ["..", ".%2e", "%2e.", "%2e%2e"].contains (String.ofList (segment.map (·.toLower)))

/-- Resolve dot segments: `done` holds the segments before, the last one first.  A dot segment at
the end leaves an empty segment, so that the path still names a folder. -/
def resolveDots (done : List (List Char)) : List (List Char) → List (List Char)
  | [] => done.reverse
  | segment :: rest =>
    let last := rest.isEmpty
    if isDoubleDot segment then
      resolveDots (if last then [] :: done.tail else done.tail) rest
    else if isSingleDot segment then
      resolveDots (if last then [] :: done else done) rest
    else resolveDots (segment :: done) rest

/-- Read a path that starts after its first slash. -/
def readSegments (special : Bool) (cs : List Char) : String :=
  let segments := splitAt (fun c => c == '/' || (special && c == '\\')) cs
  let encoded := (resolveDots [] segments).map (percentEncode pathSet)
  String.join (encoded.map fun segment => "/" ++ String.ofList segment)

/-- Read the path after an authority. -/
def readPath (special : Bool) (cs : List Char) : String :=
  match cs with
  | [] => if special then "/" else ""
  | c :: rest =>
    if c == '/' || (special && c == '\\') then readSegments special rest
    else readSegments special cs

/-- Path, query and fragment, each still as written. -/
def splitTail (cs : List Char) : List Char × Option (List Char) × Option (List Char) :=
  let (front, fragment) := cs.span (· != '#')
  let (path, query) := front.span (· != '?')
  let after (rest : List Char) : Option (List Char) :=
    match rest with
    | [] => none
    | _ :: rest => some rest
  (path, after query, after fragment)

/-- Put query and fragment, encoded, into an address. -/
def withTail (u : Url) (special : Bool) (query fragment : Option (List Char)) : Url :=
  let set := if special then specialQuerySet else querySet
  { u with
    query := query.map fun q => String.ofList (percentEncode set q)
    fragment := fragment.map fun f => String.ofList (percentEncode fragmentSet f) }

/-! ## The whole -/

/-- Read an address after its scheme and two slashes. -/
def readAuthority (scheme : String) (cs : List Char) : Except UrlError Url := do
  let kind := schemeKind scheme
  let special := kind.isSpecial
  let (authority, rest) := cs.span fun c => !endsAuthority special c
  let (userinfo, hostPort) ← match atLastAt authority with
    | none => pure ("", authority)
    | some (before, after) =>
      if before.isEmpty ∧ after.isEmpty ∧ !rest.isEmpty then .error .emptyHost
      else pure (readUserinfo before, after)
  let (hostText, portText) := splitHost false hostPort
  -- a backslash ends the port also where it does not end the authority
  let (portText, strays) := portText.span (· != '\\')
  let host ← if special then
      if hostText.isEmpty then .error .emptyHost else readHost hostText
    else readOpaqueHost hostText
  let unnamed := host == .domain ""
  if unnamed ∧ !portText.isEmpty then .error .emptyHost
  let own := match kind with
    | .special port => some port
    | _ => none
  let port ← readPort own portText
  if unnamed ∧ !userinfo.isEmpty then .error .emptyHost
  let (path, query, fragment) := splitTail (strays ++ rest)
  let u : Url := { scheme, userinfo, host := some host, port, path := readPath special path }
  return u.withTail special query fragment

/-- Two characters that name a drive: a letter and a colon or a bar. -/
def isDriveLetter : List Char → Bool
  | [letter, mark] => letter.isAlpha && (mark == ':' || mark == '|')
  | _ => false

/-- Read an address of a file after its scheme. -/
def readFile (cs : List Char) : Except UrlError Url := do
  let slash (c : Char) : Bool := c == '/' || c == '\\'
  match cs with
  | a :: b :: rest =>
    if slash a && slash b then
      let (hostText, rest) := rest.span fun c => !endsAuthority true c
      let (host, rest) ← if hostText.isEmpty ∨ isDriveLetter hostText then
          pure (none, hostText ++ rest)
        else do pure (some (← readHost hostText), rest)
      let host := if host == some (.domain "localhost") then none else host
      let (path, query, fragment) := splitTail rest
      let u : Url := { scheme := "file", host, path := readPath true path }
      return u.withTail true query fragment
    else
      let (path, query, fragment) := splitTail cs
      let u : Url := { scheme := "file", path := readPath true path }
      return u.withTail true query fragment
  | cs =>
    let (path, query, fragment) := splitTail cs
    let u : Url := { scheme := "file", path := readPath true path }
    return u.withTail true query fragment

/-- Read an address of a scheme that is not special, after the scheme. -/
def readOther (scheme : String) (cs : List Char) : Except UrlError Url :=
  match cs with
  | '/' :: '/' :: rest => readAuthority scheme rest
  | cs =>
    let (path, query, fragment) := splitTail cs
    let path := match path with
      | '/' :: rest => readSegments false rest
      | path => String.ofList (percentEncode [] path)
    let u : Url := { scheme, path }
    .ok (u.withTail false query fragment)

/-- Read an address. -/
def parse (text : String) : Except UrlError Url :=
  match splitScheme (significant text) with
  | none => .error .relativeWithoutBase
  | some (scheme, rest) =>
    match schemeKind scheme with
    | .file => readFile rest
    | .special _ => readAuthority scheme (rest.dropWhile fun c => c == '/' || c == '\\')
    | .other => readOther scheme rest

/-- What is asked for on the host: the path and the query. -/
def target (u : Url) : String :=
  match u.query with
  | some q => u.path ++ "?" ++ q
  | none => u.path

end Url

end Lookout
