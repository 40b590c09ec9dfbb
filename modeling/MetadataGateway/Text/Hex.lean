/-!
# Hexadecimal digits

Hexadecimal digits are written in lower case and read in either case.
-/

namespace MetadataGateway.Text

/-- A lower-case hexadecimal digit. -/
def hexDigit (n : Nat) : Char :=
  if n < 10 then Char.ofNat ('0'.toNat + n) else Char.ofNat ('a'.toNat + (n - 10))

/-- The value of a hexadecimal digit. -/
def hexDigit? (c : Char) : Option Nat :=
  if '0' ≤ c && c ≤ '9' then some (c.toNat - '0'.toNat)
  else if 'a' ≤ c && c ≤ 'f' then some (c.toNat - 'a'.toNat + 10)
  else if 'A' ≤ c && c ≤ 'F' then some (c.toNat - 'A'.toNat + 10)
  else none

/-- The number that hexadecimal digits spell. -/
def natOfHex? (digits : List Char) : Option Nat :=
  (digits.mapM hexDigit?).map fun values => values.foldl (fun n d => n * 16 + d) 0

/-- The two digits of an octet. -/
def hexPair (b : UInt8) : List Char :=
  [hexDigit (b.toNat / 16), hexDigit (b.toNat % 16)]

/-- The digits of octets. -/
def hex (octets : List UInt8) : List Char :=
  octets.flatMap hexPair

/-- Each octet is written with two digits. -/
@[simp] theorem length_hex (octets : List UInt8) : (hex octets).length = 2 * octets.length := by
  induction octets with
  | nil => rfl
  | cons b r ih => simp [hex, hexPair] at ih ⊢; omega

end MetadataGateway.Text
