import FluentAssist.Files.Path
import FluentAssist.Url.Host
import FluentAssist.Url.Segments

/-!
# Addresses

An address names a document or a page: a scheme, for most schemes an authority with a host, a path,
and possibly a query and a fragment. `Url.read` reads an address in the lenient way of browsers and
brings it into normal form; `Url.href` writes that form. Two addresses are the same when their
normal forms are.
-/

set_option autoImplicit false

namespace FluentAssist

/-- The path of an address. -/
inductive UrlPath
  /-- A path without structure, as in `untitled:name`. -/
  | flat (text : Text)
  /-- Segments, each of which follows a slash. -/
  | segments (names : List Text)
  deriving DecidableEq, Repr

/-- An address in normal form. -/
structure Url where
  scheme : Text
  username : Text := []
  password : Text := []
  host : Option Url.Host := none
  port : Option Nat := none
  path : UrlPath
  query : Option Text := none
  fragment : Option Text := none
  deriving DecidableEq, Repr

namespace Url

/-- Schemes whose addresses have a host, with the port they use by default. -/
def specialSchemes : List (String × Option Nat) :=
  [("http", some 80), ("https", some 443), ("ws", some 80), ("wss", some 443), ("ftp", some 21),
    ("file", none)]

/-- Whether a scheme's addresses have a host. -/
def isSpecial (scheme : Text) : Bool := specialSchemes.any fun entry => entry.1.toList == scheme

/-- The port that a scheme uses by default. -/
def defaultPort? (scheme : Text) : Option Nat :=
  (specialSchemes.lookup (String.ofList scheme)).join

/-- Whether a scheme is that of files. -/
def isFileScheme (scheme : Text) : Bool := scheme == "file".toList

/-- Control characters and blanks are dropped at both ends of an address. -/
def isEdge (c : Char) : Bool := c.toNat ≤ 0x20

/-- An address without control characters and blanks at its ends. -/
def trimmed (input : Text) : Text :=
  ((input.dropWhile isEdge).reverse.dropWhile isEdge).reverse

/-- Characters of a scheme after its first. -/
def isSchemeChar (c : Char) : Bool := c.isAlphanum || c == '+' || c == '-' || c == '.'

/-- The scheme in lower case and what follows its colon. -/
def scheme? (text : Text) : Option (Text × Text) := do
  let (before, rest) ← Text.splitOnce? ':' text
  let name := kept before
  if name.head?.any Char.isAlpha && name.all isSchemeChar then
    some (name.map Char.toLower, rest)
  else none

/-- Splits off what follows the first occurrence of a mark. -/
def splitMark (mark : Char) (text : Text) : Text × Option Text :=
  match Text.splitOnce? mark text with
  | some (before, after) => (before, some after)
  | none => (text, none)

/-- The path of an address with a host or a leading slash. -/
def pathOf (scheme text : Text) : UrlPath :=
  if text.isEmpty && !isSpecial scheme then .segments []
  else .segments (scanRooted (isSpecial scheme) false text).names

/-- User name and password, encoded. -/
def credentials (text : Text) : Text × Text :=
  let (username, password) := splitMark ':' text
  (percentEncode inUserSet username, percentEncode inUserSet (password.getD []))

/-- Splits at the last occurrence of a mark. -/
def splitLast? (mark : Char) (text : Text) : Option (Text × Text) :=
  (Text.splitOnce? mark text.reverse).map fun (after, before) => (before.reverse, after.reverse)

/-- The part of a text up to the first segment end, and the rest. -/
def authorityOf (special : Bool) (text : Text) : Text × Text :=
  (text.takeWhile (fun c => !isSegmentEnd special c),
    text.dropWhile (fun c => !isSegmentEnd special c))

/-- Splits off user name and password, which an at sign ends. -/
def splitUser (special : Bool) (text : Text) : Option Text × Text :=
  let (authority, path) := authorityOf special text
  match splitLast? '@' authority with
  | some (user, host) => (some user, host ++ path)
  | none => (none, text)

/-- Splits off the host: it ends at a segment end or at a colon outside square brackets. -/
def splitHost (special inBrackets : Bool) : Text → Text × Text
  | [] => ([], [])
  | c :: rest =>
    if isSegmentEnd special c || (c == ':' && !inBrackets) then ([], c :: rest)
    else
      let inside := if c = '[' then true else if c = ']' then false else inBrackets
      let (host, after) := splitHost special inside rest
      (c :: host, after)

/-- The port after a host and the path after the port. The port is none if it is left out or the
default of the scheme. -/
def splitPort (scheme : Text) : Text → Except Fault (Option Nat × Text)
  | ':' :: text =>
    let digits := text.takeWhile Char.isDigit
    let path := text.dropWhile Char.isDigit
    if !path.head?.all (isSegmentEnd true) then .error .badPort
    else
      match Text.readBase? 10 digits with
      | none => .ok (none, path)
      | some value =>
        if 65535 < value then .error .badPort
        else .ok (if defaultPort? scheme == some value then none else some value, path)
  | path => .ok (none, path)

/-- An address without query and fragment from what follows the slashes before its authority.
`final` tells that it has neither query nor fragment. Only a scheme without hosts admits an empty
host, and then without port, user name and password. -/
def ofAuthority (scheme text : Text) (final : Bool) : Except Fault Url := do
  let special := isSpecial scheme
  let (user, located) := splitUser special text
  let (username, password) := (user.map credentials).getD ([], [])
  let (hostText, after) := splitHost special false located
  let hasCredentials := !(username.isEmpty && password.isEmpty)
  let endsBare := user == some [] && !(after.isEmpty && final)
  if hostText.isEmpty && (special || after.head? == some ':' || hasCredentials || endsBare) then
    .error .emptyHost
  else
    let host ← if special then specialHost hostText else otherHost hostText
    let (port, path) ← splitPort scheme after
    .ok { scheme, username, password, host := some host, port, path := pathOf scheme path }

/-- The host of a file on this machine. -/
def localHost : Host := .domain []

/-- The address of a file from its host and the segments of its path. A drive letter at the front of
the path leaves no place for a host. -/
def fileAddress (scheme : Text) (host : Host) (scan : PathScan) : Url :=
  { scheme := scheme, host := some (if scan.hasDrive then localHost else host),
    path := .segments scan.names }

/-- The address of a file, from what follows the scheme, with what is left out. Two slashes come
before a host. A drive letter in the place of the host belongs to the path, and the local host is
left out. -/
def ofFile (scheme text : Text) : Except Fault Url :=
  match (afterSegmentEnd? true text).bind (afterSegmentEnd? true) with
  | none => .ok (fileAddress scheme localHost (scanRooted true true text))
  | some rest =>
    let (authority, path) := authorityOf true rest
    let name := kept authority
    if name.isEmpty then .ok (fileAddress scheme localHost (scanPath true true path))
    else if isDriveLetter name then .ok (fileAddress scheme localHost (scanPath true true rest))
    else do
      let host ← specialHost name
      if host = .domain "localhost".toList then
        .ok (fileAddress scheme localHost (scanPath true true path))
      else .ok (fileAddress scheme host (scanRooted true true path))

/-- An address from its scheme and what follows, without query and fragment; `final` tells that it
has neither. -/
def ofParts (scheme text : Text) (final : Bool) : Except Fault Url :=
  if isFileScheme scheme then ofFile scheme text
  else if isSpecial scheme then
    ofAuthority scheme ((kept text).dropWhile (isSegmentEnd true)) final
  else
    match kept text with
    | '/' :: '/' :: rest => ofAuthority scheme rest final
    | '/' :: rest => .ok { scheme, path := pathOf scheme ('/' :: rest) }
    | flat => .ok { scheme, path := .flat (percentEncode isControl flat) }

/-- Reads an absolute address. -/
def read (input : Text) : Except Fault Url := do
  let (scheme, rest) ← (scheme? (trimmed input)).elim (.error .relative) .ok
  let (beforeFragment, fragment) := splitMark '#' rest
  let (beforeQuery, query) := splitMark '?' beforeFragment
  let url ← ofParts scheme beforeQuery (query.isNone && fragment.isNone)
  let querySet := if isSpecial scheme then inSpecialQuerySet else inQuerySet
  return { url with
    query := query.map fun text => percentEncode querySet (kept text)
    fragment := fragment.map fun text => percentEncode inFragmentSet (kept text) }

/-- The absolute address that a text is, if it is one. -/
def parse? (input : Text) : Option Url := (read input).toOption

/-- The path as text. -/
def pathText (url : Url) : Text :=
  match url.path with
  | .flat text => text
  | .segments names => names.flatMap fun name => '/' :: name

/-- User name and password before the host. -/
def credentialsText (url : Url) : Text :=
  if url.username.isEmpty && url.password.isEmpty then []
  else url.username ++ (if url.password.isEmpty then [] else ':' :: url.password) ++ ['@']

/-- The authority with its two slashes; without one, a path that would be read as an authority is
kept apart. -/
def authorityText (url : Url) : Text :=
  match url.host with
  | some host =>
    ['/', '/'] ++ url.credentialsText ++ host.text ++
      (match url.port with
      | some port => ':' :: Nat.toDigits 10 port
      | none => [])
  | none =>
    match url.path with
    | .segments ([] :: _ :: _) => ['/', '.']
    | _ => []

/-- The normal form of an address. -/
def href (url : Url) : Text :=
  url.scheme ++ [':'] ++ url.authorityText ++ url.pathText ++
    (match url.query with
    | some query => '?' :: query
    | none => []) ++
    (match url.fragment with
    | some fragment => '#' :: fragment
    | none => [])

/-- The path of the file that an address names, if it is on this machine. -/
def toFilePath? (url : Url) : Option Path :=
  match url.path with
  | .flat _ | .segments [] => none
  | .segments names =>
    match url.host with
    | none => some (filePath names)
    | some (.domain name) =>
      if name.isEmpty || name == "localhost".toList then some (filePath names) else none
    | some _ => none
where
  /-- The decoded segments of a path; a bare drive letter ends in a slash. -/
  filePath (names : List Text) : Path :=
    let path := names.flatMap fun name => Path.slash :: percentDecode name
    let isDrive := isDriveLetter ((path.drop (path.length - 2)).map fun b => Char.ofNat b.toNat)
    if 2 < path.length && isDrive then ⟨path ++ [Path.slash]⟩ else ⟨path⟩

/-- The segment of a component of a path. -/
def segmentOf : Path.Component → Option Text
  | .root => none
  | .current => some ['.']
  | .parent => some ['.', '.']
  | .normal name => some (percentEncodeBytes inSegmentSet name)

/-- The address of a file with an absolute path. -/
def ofFilePath? (path : Path) : Option Url :=
  if path.isAbsolute then
    let names := path.components.filterMap segmentOf
    some {
      scheme := "file".toList
      host := some (.domain [])
      path := .segments (if names.isEmpty then [[]] else names) }
  else none

/-- The address of a directory with an absolute path: it ends in a slash. -/
def ofDirectoryPath? (path : Path) : Option Url :=
  (ofFilePath? path).map fun url =>
    match url.path with
    | .segments names =>
      if names.getLast? == some [] then url else { url with path := .segments (names ++ [[]]) }
    | .flat _ => url

end Url

end FluentAssist
