/-!
# UTF-8

A text is a list of characters; on the wire it is a list of octets. `encode` writes each character
in its one to four octets. `decodeLossy` reads any octets at all: where no character can be read it
puts U+FFFD for the longest run of octets that begins a character but cannot be completed, and goes
on behind that run. `decode?` accepts exactly the octets that `encode` writes.
-/

namespace MetadataGateway.Utf8

/-- The octets of a text, character by character. -/
def encode (text : List Char) : List UInt8 :=
  text.flatMap String.utf8EncodeChar

/-- The octets of a string. -/
def encodeString (text : String) : List UInt8 :=
  encode text.toList

/-- The character that stands for octets that are no character. -/
def replacement : Char := '\uFFFD'

/-- A character of which some octets have been read. -/
structure Pending where
  /-- The bits read so far. -/
  value : Nat
  /-- How many octets are still to come. -/
  missing : Nat
  /-- The least octet that may come next. -/
  low : UInt8
  /-- The greatest octet that may come next. -/
  high : UInt8
deriving DecidableEq, Repr

/-- What one octet does: it completes a character, it leaves one to be completed, or it cannot stand
where it stands. -/
inductive Step where
  | char (c : Char)
  | more (p : Pending)
  | broken
deriving DecidableEq, Repr

/-- An octet where a character begins. The ranges that `E0`, `ED`, `F0` and `F4` leave for the next
octet rule out second spellings, surrogates and numbers above U+10FFFF. -/
def lead (a : UInt8) : Step :=
  if a ≤ 0x7F then .char (Char.ofNat a.toNat)
  else if 0xC2 ≤ a && a ≤ 0xDF then .more ⟨a.toNat - 0xC0, 1, 0x80, 0xBF⟩
  else if 0xE0 ≤ a && a ≤ 0xEF then
    .more ⟨a.toNat - 0xE0, 2, if a = 0xE0 then 0xA0 else 0x80, if a = 0xED then 0x9F else 0xBF⟩
  else if 0xF0 ≤ a && a ≤ 0xF4 then
    .more ⟨a.toNat - 0xF0, 3, if a = 0xF0 then 0x90 else 0x80, if a = 0xF4 then 0x8F else 0xBF⟩
  else .broken

/-- An octet behind the first ones of a character. -/
def Pending.feed (p : Pending) (b : UInt8) : Step :=
  if p.low ≤ b && b ≤ p.high then
    let value := p.value * 0x40 + (b.toNat - 0x80)
    if p.missing ≤ 1 then .char (Char.ofNat value) else .more ⟨value, p.missing - 1, 0x80, 0xBF⟩
  else .broken

/-- The text of the octets that follow the first ones of a character, if there are such. -/
def decodeFrom : Option Pending → List UInt8 → List Char
  | none, [] => []
  | some _, [] => [replacement]
  | none, b :: r =>
    match lead b with
    | .char c => c :: decodeFrom none r
    | .more p => decodeFrom (some p) r
    | .broken => replacement :: decodeFrom none r
  | some p, b :: r =>
    match p.feed b with
    | .char c => c :: decodeFrom none r
    | .more q => decodeFrom (some q) r
    | .broken =>
      replacement ::
        match lead b with
        | .char c => c :: decodeFrom none r
        | .more q => decodeFrom (some q) r
        | .broken => replacement :: decodeFrom none r

/-- The text of any octets, with U+FFFD for each run that is no character. -/
def decodeLossy (octets : List UInt8) : List Char :=
  decodeFrom none octets

/-- The text whose octets these are, if they are the octets of a text. -/
def decode? (octets : List UInt8) : Option (List Char) :=
  let text := decodeLossy octets
  if encode text = octets then some text else none

end MetadataGateway.Utf8
