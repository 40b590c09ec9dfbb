import MetadataGateway.Net.Address
import MetadataGateway.Net.Domain.Name
import MetadataGateway.Text.Percent

/-!
# URLs

A URL has a scheme, and may have a host with a port, and a path. The schemes of the web are special:
their URLs have hosts that are domain names or addresses, a backslash counts as a slash, and each
has a port of its own, which need not be said. The host of any other URL is taken as it is, if it
has no character that would be mistaken for a delimiter. Spaces and control characters around a URL
do not count, nor do tabs and ends of lines in it.
-/

namespace MetadataGateway.Net

open Number Text

/-- What names a machine. -/
inductive HostName where
  | domain (name : String)
  | ip4 (ip : Ip4)
  | ip6 (ip : Ip6)
deriving DecidableEq, Repr

/-- A URL. A port that its scheme has of its own is not said. -/
structure Url where
  scheme : String
  host : Option HostName
  port : Option Nat
  path : String
deriving DecidableEq, Repr

namespace Url

/-- Why a text is no URL. -/
inductive Error where
  | noScheme
  | emptyHost
  | invalidDomain
  | invalidDomainCharacter
  | invalidIp4
  | invalidIp6
  | invalidPort
deriving DecidableEq, Repr

/-- The wording of an error. -/
def Error.message : Error → String
  | .noScheme => "relative URL without a base"
  | .emptyHost => "empty host"
  | .invalidDomain => "invalid international domain name"
  | .invalidDomainCharacter => "invalid domain character"
  | .invalidIp4 => "invalid IPv4 address"
  | .invalidIp6 => "invalid IPv6 address"
  | .invalidPort => "invalid port number"

/-! ## Schemes -/

/-- What kind a scheme is of. -/
inductive SchemeKind where
  | file
  /-- A scheme of the web with its own port. -/
  | web (port : Nat)
  | other
deriving DecidableEq, Repr

/-- The kind of a scheme. -/
def schemeKind (scheme : String) : SchemeKind :=
  match scheme with
  | "file" => .file
  | "http" => .web 80
  | "https" => .web 443
  | "ws" => .web 80
  | "wss" => .web 443
  | "ftp" => .web 21
  | _ => .other

/-- Whether a backslash counts as a slash. -/
def SchemeKind.isSpecial (k : SchemeKind) : Bool :=
  k != .other

/-- The characters of a scheme. -/
def isSchemeChar (c : Char) : Bool :=
  c.isAlphanum || c == '+' || c == '-' || c == '.'

/-- The scheme of a text in lower case, and what stands behind its colon. -/
def cutScheme? (text : List Char) : Option (String × List Char) :=
  if text.head?.any Char.isAlpha then
    match text.dropWhile isSchemeChar with
    | ':' :: rest => some (String.ofList ((text.takeWhile isSchemeChar).map Char.toLower), rest)
    | _ => none
  else none

/-! ## Hosts -/

/-- The characters that no host has. -/
def isDelimiter (c : Char) : Bool :=
  "\x00\t\n\r #/:<>?@[\\]^|".toList.contains c

/-- The parts of a domain name without the empty one behind a point at its end. -/
def labels (name : List Char) : List (List Char) :=
  let parts := name.splitOn '.'
  if parts.getLast? = some [] then parts.dropLast else parts

/-- Whether the last part of a domain name is a number, so that the name is an address. -/
def endsInNumber (name : List Char) : Bool :=
  match (labels name).getLast? with
  | none => false
  | some last => (last != [] && last.all Char.isDigit) || (ip4Part? last).isSome

/-- A host between brackets. -/
def bracketed (text : List Char) : Except Error HostName :=
  if text.getLast? = some ']' then
    match ip6? (text.drop 1).dropLast with
    | some ip => .ok (.ip6 ip)
    | none => .error .invalidIp6
  else .error .invalidIp6

/-- The host of a URL whose scheme is not special. -/
def plainHost (text : List Char) : Except Error HostName :=
  if text.head? = some '[' then bracketed text
  else if text.any isDelimiter then .error .invalidDomainCharacter
  else .ok (.domain (String.ofList text))

/-- The host of a URL whose scheme is special. -/
def domainHost (text : List Char) : Except Error HostName :=
  if text.head? = some '[' then bracketed text
  else
    match (Utf8.decode? (percentDecode (Utf8.encode text))).bind Domain.ascii? with
    | none => .error .invalidDomain
    | some name =>
      if name = [] then .error .emptyHost
      else if endsInNumber name then
        match ip4Loose? (labels name) with
        | some ip => .ok (.ip4 ip)
        | none => .error .invalidIp4
      else .ok (.domain (String.ofList name))

/-! ## Authorities -/

/-- The characters that end an authority. -/
def endsAuthority (special : Bool) (c : Char) : Bool :=
  c == '/' || c == '?' || c == '#' || (special && c == '\\')

/-- What stands before and behind the last `@` of a text. -/
def cutUser? (text : List Char) : Option (List Char × List Char) :=
  if '@' ∈ text then
    some ((text.reverse.dropWhile (· != '@')).drop 1 |>.reverse,
      (text.reverse.takeWhile (· != '@')).reverse)
  else none

/-- Whether there is a name or a password before an `@`. -/
def hasUser (user : List Char) : Bool :=
  user.takeWhile (· != ':') != [] || (user.dropWhile (· != ':')).drop 1 != []

/-- A host and what stands behind it; a colon between brackets belongs to the host. -/
def cutHost (inBrackets : Bool) : List Char → List Char × List Char
  | [] => ([], [])
  | c :: rest =>
    if c == ':' && !inBrackets then ([], c :: rest)
    else
      let (host, behind) := cutHost (c == '[' || (inBrackets && c != ']')) rest
      (c :: host, behind)

/-- The port behind a host and what stands behind it. -/
def readPort : List Char → Except Error (Option Nat × List Char)
  | ':' :: rest =>
    let digits := rest.takeWhile Char.isDigit
    let behind := rest.dropWhile Char.isDigit
    if 65536 ≤ natOfDigits digits then .error .invalidPort
    else if behind = [] || behind.head? = some '\\' then
      .ok (if digits = [] then none else some (natOfDigits digits), behind)
    else .error .invalidPort
  | text => .ok (none, text)

/-- A host and its port, and what stands behind them. -/
def hostAndPort (kind : SchemeKind) (text : List Char) :
    Except Error (Option HostName × Option Nat × List Char) := do
  let (name, behind) := cutHost false text
  match kind with
  | .web own =>
    if name = [] then .error .emptyHost
    else
      let host ← domainHost name
      let (port, rest) ← readPort behind
      .ok (some host, if port = some own then none else port, rest)
  | _ =>
    let host ← plainHost name
    if name = [] && behind.head? = some ':' then .error .emptyHost
    else
      let (port, rest) ← readPort behind
      .ok (if name = [] then none else some host, port, rest)

/-- The authority that a text begins with: its host and port, and what stands behind it. A user
without a host is refused, and so is an `@` at the front if a path, query or fragment follows it. -/
def authority (kind : SchemeKind) (text : List Char) :
    Except Error (Option HostName × Option Nat × List Char) := do
  let front := text.takeWhile (!endsAuthority kind.isSpecial ·)
  let behind := text.dropWhile (!endsAuthority kind.isSpecial ·)
  match cutUser? front with
  | none =>
    let (host, port, rest) ← hostAndPort kind front
    .ok (host, port, rest ++ behind)
  | some (user, named) =>
    if user = [] && named = [] && behind != [] then .error .emptyHost
    else
      let (host, port, rest) ← hostAndPort kind named
      if host = none && hasUser user then .error .emptyHost else .ok (host, port, rest ++ behind)

/-! ## Paths -/

/-- The ASCII characters that are escaped in a path. -/
def isEscapedInPath (c : Char) : Bool :=
  c ≤ ' ' || c == '\x7F' || "\"#<>?\x60\x7B\x7D".toList.contains c

/-- A character of a path, escaped if it has to be. -/
def pathChar (c : Char) : List Char :=
  if isEscapedInPath c || 0x80 ≤ c.toNat then
    (Utf8.encode [c]).flatMap fun b => '%' :: (hexPair b).map Char.toUpper
  else [c]

/-- The segments of a path without those that are points. One point stands for the segment itself
and two stand for the one before. -/
def settle : List (List Char) → List (List Char) → List (List Char)
  | done, [] => done.reverse
  | done, s :: rest =>
    match pointsOf s with
    | 1 => settle (if rest = [] then [] :: done else done) rest
    | 2 => settle (if rest = [] then [] :: done.drop 1 else done.drop 1) rest
    | _ => settle (s :: done) rest
where
  /-- How many points a segment is made of, 3 if it has anything else; a point may be escaped. -/
  pointsOf : List Char → Nat
    | [] => 0
    | '.' :: rest => min 3 (pointsOf rest + 1)
    | '%' :: '2' :: 'e' :: rest => min 3 (pointsOf rest + 1)
    | '%' :: '2' :: 'E' :: rest => min 3 (pointsOf rest + 1)
    | _ => 3

/-- What of a text belongs to the path. -/
def pathPart (text : List Char) : List Char :=
  text.takeWhile fun c => c != '?' && c != '#'

/-- The path behind an authority, or behind the scheme if it begins with a slash. A special URL
always has one. -/
def rootedPath (special : Bool) (text : List Char) : List Char :=
  let slashed := (pathPart text).map fun c => if special && c == '\\' then '/' else c
  if slashed = [] then if special then ['/'] else []
  else
    let text := if slashed.head? = some '/' then slashed.drop 1 else slashed
    (settle [] (text.splitOn '/')).flatMap fun s => '/' :: s.flatMap pathChar

/-- The path of a URL that has neither an authority nor a slash behind its scheme. -/
def plainPath (text : List Char) : List Char :=
  (pathPart text).flatMap fun c =>
    if c < ' ' || 0x7F ≤ c.toNat then pathChar c else [c]

/-! ## Reading -/

/-- Whether a text is the letter of a drive. -/
def isDrive : List Char → Bool
  | [c, d] => c.isAlpha && (d == ':' || d == '|')
  | _ => false

/-- The host of a file, and what stands behind it. -/
def fileHost (text : List Char) : Except Error (Option HostName × List Char) :=
  let name := text.takeWhile (!endsAuthority true ·)
  if name = [] || isDrive name then .ok (none, text)
  else do
    let host ← domainHost name
    .ok (if host = .domain "localhost" then none else some host, text.drop name.length)

/-- Whether a character is a slash of a special URL. -/
def isSlash (c : Char) : Bool :=
  c == '/' || c == '\\'

/-- The URL of a scheme and what stands behind it. -/
def ofParts (scheme : String) (text : List Char) : Except Error Url := do
  match schemeKind scheme with
  | .file =>
    let slashes := (text.take 2).takeWhile isSlash
    let (host, rest) ← if slashes.length = 2 then fileHost (text.drop 2) else .ok (none, text)
    .ok ⟨scheme, host, none, String.ofList (rootedPath true rest)⟩
  | .web own =>
    let (host, port, rest) ← authority (.web own) (text.dropWhile isSlash)
    .ok ⟨scheme, host, port, String.ofList (rootedPath true rest)⟩
  | .other =>
    match text with
    | '/' :: '/' :: rest =>
      let (host, port, rest) ← authority .other rest
      .ok ⟨scheme, host, port, String.ofList (rootedPath false rest)⟩
    | '/' :: _ => .ok ⟨scheme, none, none, String.ofList (rootedPath false text)⟩
    | _ => .ok ⟨scheme, none, none, String.ofList (plainPath text)⟩

/-- What counts of a text. -/
def significant (text : List Char) : List Char :=
  let front := text.dropWhile (· ≤ ' ')
  let middle := (front.reverse.dropWhile (· ≤ ' ')).reverse
  middle.filter fun c => !(c == '\t' || c == '\n' || c == '\r')

/-- The URL that a text spells. -/
def ofString (text : String) : Except Error Url :=
  match cutScheme? (significant text.toList) with
  | some (scheme, rest) => ofParts scheme rest
  | none => .error .noScheme

end Url

end MetadataGateway.Net
