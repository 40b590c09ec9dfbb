import MetadataGateway.Text.Utf8

/-!
# Request targets

A request target is `*`, a path with perhaps a query, the whole of a URI, or an authority alone.
What the gateway takes from it is the path and query. A fragment is cut off. Every octet has to be
one that its place allows.
-/

namespace MetadataGateway.Http.Target

/-- Why a text is no request target. -/
inductive Error where
  | invalidCharacter
  | invalidAuthority
  | invalidFormat
  | tooLong
  | empty
  | schemeTooLong
deriving DecidableEq, Repr

/-- The wording of an error. -/
def Error.message : Error → String
  | .invalidCharacter => "invalid uri character"
  | .invalidAuthority => "invalid authority"
  | .invalidFormat => "invalid format"
  | .tooLong => "uri too long"
  | .empty => "empty string"
  | .schemeTooLong => "scheme too long"

/-- The octet of an ASCII character. -/
def octet (c : Char) : UInt8 := UInt8.ofNat c.toNat

/-- Letters and digits. -/
def isAlphanumeric (b : UInt8) : Bool :=
  (0x30 ≤ b && b ≤ 0x39) || (0x41 ≤ b && b ≤ 0x5A) || (0x61 ≤ b && b ≤ 0x7A)

/-- The octets of a scheme. -/
def isSchemeOctet (b : UInt8) : Bool :=
  isAlphanumeric b || ['+', '-', '.', '~'].any (octet · == b)

/-- The octets of an authority. -/
def isAuthorityOctet (b : UInt8) : Bool :=
  isAlphanumeric b || "!$&'()*+,-.:;=@[]_~%".toList.any (octet · == b)

/-- The octets of a path. -/
def isPathOctet (b : UInt8) : Bool :=
  b = 0x21 || b = 0x22 || (0x24 ≤ b && b ≤ 0x3B) || b = 0x3D || (0x40 ≤ b && b ≤ 0x5F)
    || (0x61 ≤ b && b ≤ 0x7E) || 0x80 ≤ b

/-- The octets of a query. -/
def isQueryOctet (b : UInt8) : Bool :=
  b = 0x21 || (0x24 ≤ b && b ≤ 0x3B) || b = 0x3D || (0x3F ≤ b && b ≤ 0x7E) || 0x80 ≤ b

/-- The octets in which a fragment begins. -/
def isHash (b : UInt8) : Bool := b == 0x23

/-- The octets that end a path. -/
def isPathEnd (b : UInt8) : Bool := b == 0x3F || isHash b

/-- The octets that end an authority. -/
def isAuthorityEnd (b : UInt8) : Bool := b == 0x2F || isPathEnd b

/-- A path and query without the fragment behind it. -/
def pathAndQuery (target : List UInt8) : Except Error (List UInt8) :=
  let path := target.takeWhile (!isPathEnd ·)
  let query := (target.dropWhile (!isPathEnd ·)).takeWhile (!isHash ·)
  if path.all isPathOctet && query.all isQueryOctet then .ok (path ++ query)
  else .error .invalidCharacter

/-- What has been seen of an authority: colons since the last `@` or `]`, the brackets, and whether
a percent sign stands outside of them. -/
structure Authority where
  colons : Nat
  opened : Bool
  closed : Bool
  percent : Bool
deriving DecidableEq, Repr

/-- One octet of an authority. -/
def Authority.feed (a : Authority) (b : UInt8) : Except Error Authority :=
  if !isAuthorityOctet b then .error .invalidCharacter
  else if b = octet ':' then
    if 8 ≤ a.colons then .error .invalidAuthority else .ok { a with colons := a.colons + 1 }
  else if b = octet '[' then
    if a.percent || a.opened then .error .invalidAuthority else .ok { a with opened := true }
  else if b = octet ']' then
    if !a.opened || a.closed then .error .invalidAuthority
    else .ok { a with closed := true, colons := 0, percent := false }
  else if b = octet '@' then .ok { a with colons := 0, percent := false }
  else if b = octet '%' then .ok { a with percent := true }
  else .ok a

/-- The authority at the front of a text, which may be empty. -/
def authority (text : List UInt8) : Except Error (List UInt8) := do
  let front := text.takeWhile (!isAuthorityEnd ·)
  let a ← front.foldlM Authority.feed ⟨0, false, false, false⟩
  if a.opened != a.closed || 1 < a.colons || front.getLast? = some (octet '@') || a.percent then
    .error .invalidAuthority
  else .ok front

/-- The length of the longest target. -/
def maxLength : Nat := 65534

/-- The length of the longest scheme. -/
def maxSchemeLength : Nat := 64

/-- What stands behind the scheme of a URI and its `://`, if it has a scheme. -/
def dropScheme? (target : List UInt8) : Except Error (Option (List UInt8)) :=
  let scheme := target.takeWhile isSchemeOctet
  match target.dropWhile isSchemeOctet with
  | 0x3A :: 0x2F :: 0x2F :: rest =>
    if target.length ≤ 3 then .ok none
    else if maxSchemeLength < scheme.length then .error .schemeTooLong
    else .ok (some rest)
  | _ => .ok none

/-- The path and query of a target. A URI without path and query has `/`, and so has an authority
alone; behind a scheme there has to be one. -/
def read (text : List UInt8) : Except Error (List UInt8) := do
  if maxLength < text.length then .error .tooLong
  else
    match text with
    | [] => .error .empty
    | [0x2A] => .ok text
    | 0x2F :: _ => pathAndQuery text
    | [_] =>
      let front ← authority text
      if front = text then .ok [octet '/'] else .error .invalidCharacter
    | _ =>
      match ← dropScheme? text with
      | none =>
        let front ← authority text
        if front = text then .ok [octet '/'] else .error .invalidFormat
      | some [] => .error .empty
      | some rest =>
        let front ← authority rest
        if front = [] then .error .invalidFormat
        else
          let found ← pathAndQuery (rest.drop front.length)
          .ok (if found = [] then [octet '/'] else found)

/-- The path and query of a target that is a text. -/
def ofString (target : String) : Except Error String :=
  (read (Utf8.encodeString target)).map fun octets => String.ofList (Utf8.decodeLossy octets)

end MetadataGateway.Http.Target
