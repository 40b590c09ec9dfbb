import MetadataGateway.Text.Utf8

/-!
# Percent-encoded octets and form-encoded pairs

In a path an octet may be written as a percent sign and two hexadecimal digits. In a form, pairs of
a name and a value are separated by `&`, the first `=` ends the name, and `+` stands for a space. A
percent sign that two hexadecimal digits do not follow stands for itself.
-/

namespace MetadataGateway.Text

/-- The value of a hexadecimal digit of either case. -/
def hexValue? (b : UInt8) : Option UInt8 :=
  if 0x30 ≤ b && b ≤ 0x39 then some (b - 0x30)
  else if 0x41 ≤ b && b ≤ 0x46 then some (b - 0x37)
  else if 0x61 ≤ b && b ≤ 0x66 then some (b - 0x57)
  else none

/-- The octet that two hexadecimal digits spell. -/
def hexPair? (h l : UInt8) : Option UInt8 :=
  match hexValue? h, hexValue? l with
  | some x, some y => some (x * 16 + y)
  | _, _ => none

/-- The octets that percent-encoded octets stand for. -/
def percentDecode : List UInt8 → List UInt8
  | a :: h :: l :: r =>
    if a = 0x25 then
      match hexPair? h l with
      | some b => b :: percentDecode r
      | none => a :: percentDecode (h :: l :: r)
    else a :: percentDecode (h :: l :: r)
  | short => short

/-- The text of percent-encoded octets; octets that are no text read as U+FFFD. -/
def percentDecodeText (octets : List UInt8) : String :=
  String.ofList (Utf8.decodeLossy (percentDecode octets))

/-- The octets before the first `sep`, and those behind it; all and none when there is no `sep`. -/
def cutAt (sep : UInt8) (octets : List UInt8) : List UInt8 × List UInt8 :=
  (octets.takeWhile (· != sep), (octets.dropWhile (· != sep)).drop 1)

/-- The text of a name or value in a form. -/
def formText (octets : List UInt8) : String :=
  percentDecodeText (octets.map fun b => if b = 0x2B then 0x20 else b)

/-- The name and the value that one segment of a form stands for. -/
def formPair (segment : List UInt8) : String × String :=
  let (name, value) := cutAt 0x3D segment
  (formText name, formText value)

/-- The pairs of a form, in order; empty segments stand for no pair. -/
def formPairs (octets : List UInt8) : List (String × String) :=
  ((octets.splitOn 0x26).filter (· != [])).map formPair

end MetadataGateway.Text
