import MetadataGateway.Number.FloatText

/-!
# The fewest digits that read back

Every finite double is the nearest double to many decimals. `shortest` finds, of those with the
fewest digits, the one nearest to the double itself. The search is over exact fractions: a double is
`m` times a power of two, and the decimals that read back as it lie between the midpoints to its two
neighbours.
-/

namespace MetadataGateway.Number

/-- The decimals that read back as one positive double, all over the same denominator. -/
structure Interval where
  /-- Four times the double. -/
  value : Nat
  /-- Four times the midpoint to the double below. -/
  low : Nat
  /-- Four times the midpoint to the double above. -/
  high : Nat
  /-- Four times the denominator. -/
  unit : Nat
  /-- Whether the two midpoints read back as this double. -/
  closed : Bool
deriving Repr

/-- What a normal double has above its fraction: 2^52. -/
def twoTo52 : Nat := 4503599627370496

/-- The decimals that read back as the positive double with these bits. -/
def intervalOfBits (bits : UInt64) : Interval :=
  let fraction := bits.toNat % twoTo52
  let field := bits.toNat / twoTo52 % 2048
  let m := if field = 0 then fraction else fraction + twoTo52
  let shift := (if field = 0 then 1 else field)  -- the double is m · 2 ^ (shift - 1075)
  let below := if fraction = 0 && 1 < field then 1 else 2
  let up := Nat.pow 2 (shift - 1075)
  { value := 4 * m * up
    low := (4 * m - below) * up
    high := (4 * m + 2) * up
    unit := 4 * Nat.pow 2 (1075 - shift)
    closed := m % 2 = 0 }

/-- A power of ten as a fraction. -/
def tenTo (e : Int) : Nat × Nat :=
  (Nat.pow 10 e.toNat, Nat.pow 10 (-e).toNat)

/-- Whether a decimal reads back as the double. -/
def Interval.contains (i : Interval) (d : Decimal) : Bool :=
  let (num, den) := tenTo d.exponent
  let here := d.coefficient * num * i.unit
  if i.closed then i.low * den ≤ here && here ≤ i.high * den
  else i.low * den < here && here < i.high * den

/-- The exponent `e` with 10^e at most the double and 10^(e+1) above it. -/
def Interval.magnitude (i : Interval) : Int :=
  let guess : Int := (Nat.toDigits 10 i.value).length - (Nat.toDigits 10 i.unit).length
  let (num, den) := tenTo guess
  if num * i.unit ≤ i.value * den then guess else guess - 1

/-- Which of two equally near decimals is taken. -/
inductive Tie where
  | even
  | upper
deriving DecidableEq, Repr

/-- The decimal of at most `n` digits nearest to the double among those that read back. Ten units of
the last place are one of the place before. -/
def Interval.nearest? (i : Interval) (tie : Tie) (n : Nat) : Option Decimal :=
  let e := i.magnitude - (n : Int) + 1
  let (num, den) := tenTo e
  let below := i.value * den / (i.unit * num)
  let rest := i.value * den % (i.unit * num)
  let lower : Decimal := ⟨below, e⟩
  let upper : Decimal := if below = 9 then ⟨1, e + 1⟩ else ⟨below + 1, e⟩
  match i.contains lower, i.contains upper with
  | true, true =>
    some (if 2 * rest < i.unit * num || (2 * rest = i.unit * num && tie = .even && below % 2 = 0)
      then lower else upper)
  | true, false => some lower
  | false, true => some upper
  | false, false => none

/-- The decimal with the fewest digits that reads back as a positive finite double; 17 digits are
always enough. -/
def shortestOfBits (tie : Tie) (bits : UInt64) : Decimal :=
  let i := intervalOfBits bits
  ((List.range 17).findSome? fun n => i.nearest? tie (n + 1)).getD ⟨0, 0⟩

/-- The shortest decimal of the size of a finite double. -/
def shortest (tie : Tie) (x : Float) : Decimal :=
  let bits := x.toBits % 0x8000000000000000
  if bits = 0 then ⟨0, 0⟩ else shortestOfBits tie bits

/-- Whether the sign bit is set. -/
def isNegative (x : Float) : Bool :=
  0x8000000000000000 ≤ x.toBits

/-- All digits of a decimal, with a point where it has a fraction. -/
def Decimal.plain (d : Decimal) : List Char :=
  let digits := Nat.toDigits 10 d.coefficient
  if 0 ≤ d.exponent then digits ++ List.replicate d.exponent.toNat '0'
  else
    let places := (-d.exponent).toNat
    let padded := List.replicate (places + 1 - digits.length) '0' ++ digits
    padded.take (padded.length - places) ++ '.' :: padded.drop (padded.length - places)

/-- Digits that always show a point. -/
def withPoint (digits : List Char) : List Char :=
  if digits.contains '.' then digits else digits ++ ['.', '0']

/-- A number without a power of ten that always shows a point, and `inf` and `NaN` by name; of two
equally near decimals the greater is shown. -/
def positionalWithPoint (x : Float) : String :=
  if x.isNaN then "NaN"
  else
    let sign := if isNegative x then "-" else ""
    if x.isInf then sign ++ "inf"
    else sign ++ String.ofList (withPoint (shortest .upper x).plain)

end MetadataGateway.Number
