import MetadataGateway.Json.Basic
import MetadataGateway.Number.Shortest
import MetadataGateway.Text.Hex

/-!
# JSON as text

Values are written without blanks. In a string the quote, the backslash and the controls are escaped
and nothing else is. A double has the fewest digits that read back and always a point or a power of
ten.
-/

namespace MetadataGateway.Json

open Text

/-- How one character is written in a string. -/
def escapeChar (c : Char) : List Char :=
  if c = '\x22' then ['\\', '\x22']
  else if c = '\\' then ['\\', '\\']
  else if c = '\x08' then ['\\', 'b']
  else if c = '\t' then ['\\', 't']
  else if c = '\n' then ['\\', 'n']
  else if c = '\x0C' then ['\\', 'f']
  else if c = '\r' then ['\\', 'r']
  else if c < ' ' then ['\\', 'u', '0', '0', hexDigit (c.toNat / 16), hexDigit (c.toNat % 16)]
  else [c]

/-- A string between quotes. -/
def renderString (s : String) : List Char :=
  '\x22' :: s.toList.flatMap escapeChar ++ ['\x22']

/-- An integer in decimal digits. -/
def renderInteger (n : Int) : List Char :=
  if n < 0 then '-' :: Nat.toDigits 10 n.natAbs else Nat.toDigits 10 n.natAbs

/-- A finite double: positional from 0.00001 up to 10^16, otherwise with a power of ten and its sign
behind the first digit. -/
def renderFloat (x : Float) : List Char :=
  let d := Number.shortest .even x
  let digits := Nat.toDigits 10 d.coefficient
  let point := d.exponent + digits.length
  let sign := if Number.isNegative x then ['-'] else []
  if d.coefficient = 0 then sign ++ ['0', '.', '0']
  else if -5 < point && point ≤ 16 then sign ++ Number.withPoint d.plain
  else
    let fraction := if digits.length = 1 then [] else '.' :: digits.drop 1
    let power := renderInteger (point - 1)
    sign ++ digits.take 1 ++ fraction ++ 'e' :: (if 0 < point then '+' :: power else power)

mutual

/-- The text of a value. -/
def render : Json → List Char
  | .null => ['n', 'u', 'l', 'l']
  | .boolean true => ['t', 'r', 'u', 'e']
  | .boolean false => ['f', 'a', 'l', 's', 'e']
  | .integer n => renderInteger n
  | .float x => if x.isFinite then renderFloat x else ['n', 'u', 'l', 'l']
  | .string s => renderString s
  | .array [] => ['[', ']']
  | .array (v :: vs) => '[' :: render v ++ renderItems vs ++ [']']
  | .object [] => ['\x7B', '\x7D']
  | .object ((n, v) :: ms) =>
    '\x7B' :: renderString n ++ ':' :: render v ++ renderMembers ms ++ ['\x7D']

/-- The items behind the first, each with its comma. -/
def renderItems : List Json → List Char
  | [] => []
  | v :: vs => ',' :: render v ++ renderItems vs

/-- The members behind the first, each with its comma. -/
def renderMembers : List (String × Json) → List Char
  | [] => []
  | (n, v) :: ms => ',' :: renderString n ++ ':' :: render v ++ renderMembers ms

end

/-- The text of a value as a string. -/
def text (v : Json) : String :=
  String.ofList v.render

end MetadataGateway.Json
