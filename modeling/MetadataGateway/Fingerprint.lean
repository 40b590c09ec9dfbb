import MetadataGateway.Text.Hex
import MetadataGateway.Text.Utf8

/-!
# Fingerprints

The key under which the cache keeps the answer to a request is the MD5 digest of its target in
hexadecimal digits. The target is taken as received, so targets that mean the same have different
keys when they are spelled differently.

The digest is that of RFC 1321. A message is padded to whole blocks of 64 octets, and each block
takes the four words of the state through 64 steps.
-/

namespace MetadataGateway

namespace Md5

/-- The four words of the state; behind the last block they are the digest. -/
structure State where
  a : UInt32
  b : UInt32
  c : UInt32
  d : UInt32
deriving DecidableEq, Repr

/-- The state before the first block. -/
def initial : State := ⟨0x67452301, 0xEFCDAB89, 0x98BADCFE, 0x10325476⟩

/-- The constants of the 64 steps: the whole part of 2^32 times the sine of the step's number. -/
def constants : Array UInt32 :=
  #[
    0xD76AA478, 0xE8C7B756, 0x242070DB, 0xC1BDCEEE,
    0xF57C0FAF, 0x4787C62A, 0xA8304613, 0xFD469501,
    0x698098D8, 0x8B44F7AF, 0xFFFF5BB1, 0x895CD7BE,
    0x6B901122, 0xFD987193, 0xA679438E, 0x49B40821,
    0xF61E2562, 0xC040B340, 0x265E5A51, 0xE9B6C7AA,
    0xD62F105D, 0x02441453, 0xD8A1E681, 0xE7D3FBC8,
    0x21E1CDE6, 0xC33707D6, 0xF4D50D87, 0x455A14ED,
    0xA9E3E905, 0xFCEFA3F8, 0x676F02D9, 0x8D2A4C8A,
    0xFFFA3942, 0x8771F681, 0x6D9D6122, 0xFDE5380C,
    0xA4BEEA44, 0x4BDECFA9, 0xF6BB4B60, 0xBEBFBC70,
    0x289B7EC6, 0xEAA127FA, 0xD4EF3085, 0x04881D05,
    0xD9D4D039, 0xE6DB99E5, 0x1FA27CF8, 0xC4AC5665,
    0xF4292244, 0x432AFF97, 0xAB9423A7, 0xFC93A039,
    0x655B59C3, 0x8F0CCC92, 0xFFEFF47D, 0x85845DD1,
    0x6FA87E4F, 0xFE2CE6E0, 0xA3014314, 0x4E0811A1,
    0xF7537E82, 0xBD3AF235, 0x2AD7D2BB, 0xEB86D391]

/-- By how many bits each of the 64 steps rotates: four amounts in turn, others in each round of 16
steps. -/
def rotation (step : Nat) : UInt32 :=
  match step / 16, step % 4 with
  | 0, 0 => 7 | 0, 1 => 12 | 0, 2 => 17 | 0, _ => 22
  | 1, 0 => 5 | 1, 1 => 9 | 1, 2 => 14 | 1, _ => 20
  | 2, 0 => 4 | 2, 1 => 11 | 2, 2 => 16 | 2, _ => 23
  | _, 0 => 6 | _, 1 => 10 | _, 2 => 15 | _, _ => 21

/-- A word with its bits rotated to the left. -/
def rotateLeft (x n : UInt32) : UInt32 :=
  (x <<< n) ||| (x >>> (32 - n))

/-- How a step mixes three words of the state, and the word of the block that it takes. -/
def mix (step : Nat) (b c d : UInt32) : UInt32 × Nat :=
  match step / 16 with
  | 0 => ((b &&& c) ||| (~~~b &&& d), step)
  | 1 => ((d &&& b) ||| (~~~d &&& c), (5 * step + 1) % 16)
  | 2 => (b ^^^ c ^^^ d, (3 * step + 5) % 16)
  | _ => (c ^^^ (b ||| ~~~d), (7 * step) % 16)

/-- One of the 64 steps. -/
def step (block : Array UInt32) (s : State) (i : Nat) : State :=
  let (f, g) := mix i s.b s.c s.d
  let sum := s.a + f + constants.getD i 0 + block.getD g 0
  ⟨s.d, s.b + rotateLeft sum (rotation i), s.b, s.c⟩

/-- The word of four octets, the first the lowest. -/
def word (octets : List UInt8) : UInt32 :=
  octets.foldr (fun b w => (w <<< 8) ||| b.toUInt32) 0

/-- The words of a block. -/
def words (block : List UInt8) : Array UInt32 :=
  ((List.range 16).map fun i => word ((block.drop (4 * i)).take 4)).toArray

/-- Take the state through one block. -/
def compress (s : State) (block : List UInt8) : State :=
  let t := (List.range 64).foldl (step (words block)) s
  ⟨s.a + t.a, s.b + t.b, s.c + t.c, s.d + t.d⟩

/-- The `n` octets of a number, the first the lowest. -/
def littleEndian : Nat → Nat → List UInt8
  | 0, _ => []
  | n + 1, x => UInt8.ofNat (x % 256) :: littleEndian n (x / 256)

/-- A message with its padding: a bit, zeros, and the number of bits of the message. -/
def pad (message : List UInt8) : List UInt8 :=
  message ++ 0x80 :: List.replicate ((119 - message.length % 64) % 64) 0
    ++ littleEndian 8 (8 * message.length)

/-- The blocks of a padded message. -/
def blocks (padded : List UInt8) : List (List UInt8) :=
  (List.range (padded.length / 64)).map fun i => (padded.drop (64 * i)).take 64

/-- The state behind the last block of a message. -/
def run (message : List UInt8) : State :=
  (blocks (pad message)).foldl compress initial

/-- The sixteen octets of the digest of a message. -/
def digest (message : List UInt8) : List UInt8 :=
  let s := run message
  [s.a, s.b, s.c, s.d].flatMap fun w => littleEndian 4 w.toNat

/-- A number has as many octets as it is written with. -/
@[simp] theorem length_littleEndian (n x : Nat) : (littleEndian n x).length = n := by
  induction n generalizing x with
  | zero => rfl
  | succ n ih => simp [littleEndian, ih]

/-- A digest has sixteen octets. -/
@[simp] theorem length_digest (message : List UInt8) : (digest message).length = 16 := by
  simp [digest]

end Md5

/-- A key of the cache. -/
structure Fingerprint where
  text : String
deriving DecidableEq, Repr

namespace Fingerprint

/-- The fingerprint of a target. -/
def ofUri (uri : String) : Fingerprint :=
  ⟨String.ofList (Text.hex (Md5.digest (Utf8.encodeString uri)))⟩

end Fingerprint

end MetadataGateway
