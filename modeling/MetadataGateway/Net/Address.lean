import MetadataGateway.Number.IntegerText
import MetadataGateway.Text.Hex

/-!
# Addresses

An address of version 4 is four numbers below 256 with points between them. One of version 6 is
eight groups of 16 bits in hexadecimal digits with colons between them; a double colon stands for as
many groups of zero as are missing, at least one, and the last two groups may be written as an
address of version 4. A socket address is an address with the number of a port.
-/

namespace MetadataGateway.Net

open Number Text

/-- The number below `bound` that decimal digits spell; zeros may stand before it. -/
def number? (bound : Nat) (text : List Char) : Option Nat :=
  if text != [] && text.all Char.isDigit && natOfDigits text < bound then some (natOfDigits text)
  else none

/-- The numbers of an address of version 4. -/
abbrev Ip4 := List Nat

/-- The groups of an address of version 6. -/
abbrev Ip6 := List Nat

/-- A number of an address of version 4: at most three digits, and no zero before others. -/
def octet? (text : List Char) : Option Nat :=
  if 3 < text.length || (text.head? == some '0' && 1 < text.length) then none
  else number? 256 text

/-- The address of version 4 that a text spells. -/
def ip4? (text : List Char) : Option Ip4 :=
  let parts := text.splitOn '.'
  if parts.length = 4 then parts.mapM octet? else none

/-! ## Loose spelling -/

/-- A part of an address of version 4 in its loose spelling, where it may be written to the base 8,
10 or 16: `none` if it is no number, and `some none` if it is too large. -/
def ip4Part? (part : List Char) : Option (Option Nat) :=
  let (base, digits) :=
    match part with
    | '0' :: 'x' :: rest => (16, rest)
    | '0' :: 'X' :: rest => (16, rest)
    | '0' :: c :: rest => (8, c :: rest)
    | text => (10, text)
  if part = [] then none
  else
    match digits.mapM hexDigit? with
    | none => none
    | some values =>
      if values.all (· < base) then
        let n := values.foldl (fun n d => n * base + d) 0
        some (if n < 4294967296 then some n else none)
      else none

/-- The address of version 4 that up to four numbers make; the last one fills what the others leave.
-/
def ip4OfParts? (numbers : List Nat) : Option Ip4 :=
  let front := numbers.dropLast
  let last := numbers.getLastD 0
  if 4 < numbers.length || front.any (255 < ·) || Nat.pow 256 (4 - front.length) ≤ last then none
  else
    some (front ++ (List.range (4 - front.length)).reverse.map fun i => last / Nat.pow 256 i % 256)

/-- The address of version 4 that parts in loose spelling make. -/
def ip4Loose? (parts : List (List Char)) : Option Ip4 := do
  let numbers ← parts.mapM ip4Part?
  ip4OfParts? (← numbers.mapM id)

/-! ## Version 6 -/

/-- The group that a text spells. -/
def group? (text : List Char) : Option Nat :=
  if text = [] || 4 < text.length then none else natOfHex? text

/-- The groups that a text spells whose parts stand between colons; with `mixed` the last part may
be an address of version 4. -/
def groups? (mixed : Bool) : List (List Char) → Option (List Nat)
  | [] => some []
  | [part] =>
    match mixed, ip4? part with
    | true, some [a, b, c, d] => some [a * 256 + b, c * 256 + d]
    | _, _ => (group? part).map fun g => [g]
  | part :: rest => do some ((← group? part) :: (← groups? mixed rest))

/-- The parts of a text that may be empty. -/
def parts (text : List Char) : List (List Char) :=
  if text = [] then [] else text.splitOn ':'

/-- A text before and behind its first double colon. -/
def cutAtGap? : List Char → Option (List Char × List Char)
  | [] => none
  | c :: rest =>
    if c == ':' && rest.head? == some ':' then some ([], rest.drop 1)
    else (cutAtGap? rest).map fun (before, behind) => (c :: before, behind)

/-- The address of version 6 that a text spells. -/
def ip6? (text : List Char) : Option Ip6 := do
  match cutAtGap? text with
  | none =>
    let groups ← groups? true (parts text)
    if groups.length = 8 then some groups else none
  | some (before, behind) =>
    let front ← groups? false (parts before)
    let back ← groups? true (parts behind)
    if front.length + back.length ≤ 7 then
      some (front ++ List.replicate (8 - front.length - back.length) 0 ++ back)
    else none

/-! ## Socket addresses -/

/-- A socket address; the scope of an address of version 6 is 0 if none is written. -/
inductive SocketAddress where
  | v4 (ip : Ip4) (port : Nat)
  | v6 (ip : Ip6) (scope port : Nat)
deriving DecidableEq, Repr

/-- The number of a port that a text spells. -/
def port? (text : List Char) : Option Nat :=
  number? 65536 text

/-- The parts of a text before and behind the first of a character. -/
def cut? (mark : Char) (text : List Char) : Option (List Char × List Char) :=
  if mark ∈ text then some (text.takeWhile (· != mark), (text.dropWhile (· != mark)).drop 1)
  else none

/-- The address and scope between the brackets of a socket address. -/
def scoped? (text : List Char) : Option (Ip6 × Nat) :=
  match cut? '%' text with
  | none => (ip6? text).map fun ip => (ip, 0)
  | some (ip, scope) => do some (← ip6? ip, ← number? 4294967296 scope)

/-- The socket address that a text spells. -/
def SocketAddress.ofString? (text : String) : Option SocketAddress :=
  match text.toList with
  | '[' :: rest => do
    let (inner, behind) ← cut? ']' rest
    let (ip, scope) ← scoped? inner
    match behind with
    | ':' :: digits => (port? digits).map fun port => .v6 ip scope port
    | _ => none
  | text => do
    let (ip, digits) ← cut? ':' text
    some (.v4 (← ip4? ip) (← port? digits))

end MetadataGateway.Net
