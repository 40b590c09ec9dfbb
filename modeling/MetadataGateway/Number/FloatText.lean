import MetadataGateway.Number.IntegerText

/-!
# Floating-point numbers from text

A floating-point number is written in decimal digits with an optional point and an optional power of
ten, or as `inf`, `infinity` or `nan` in any case; a sign may stand before it. The value is the
double nearest to the decimal, of two equally near ones the even one.
-/

namespace MetadataGateway.Number

/-- A decimal number: `coefficient` times ten to the power of `exponent`. -/
structure Decimal where
  coefficient : Nat
  exponent : Int
deriving DecidableEq, Repr

/-- Infinity. -/
def infinity : Float :=
  Float.ofBits 0x7FF0000000000000

/-- The result that is not a number. -/
def notANumber : Float :=
  Float.ofBits 0x7FF8000000000000

/-- The double nearest to a decimal. A decimal at or above 10^400 is beyond all doubles and one
below 10^(-400) is nearer to zero than to any other, so no power of ten need be larger. -/
def Decimal.toFloat (d : Decimal) : Float :=
  let size := d.exponent + (Nat.toDigits 10 d.coefficient).length
  if d.coefficient = 0 || size < -400 then 0.0
  else if 400 < size then infinity
  else if 0 ≤ d.exponent then Float.ofScientific d.coefficient false d.exponent.toNat
  else Float.ofScientific d.coefficient true (-d.exponent).toNat

/-- The power of ten behind the letter of an exponent. -/
def readExponent? : List Char → Option Int
  | '-' :: digits => (readDigits? digits).map fun n => -(n : Int)
  | '+' :: digits => (readDigits? digits).map fun n => (n : Int)
  | digits => (readDigits? digits).map fun n => (n : Int)
where
  /-- One or more digits and nothing else. -/
  readDigits? (digits : List Char) : Option Nat :=
    if digits != [] && digits.all Char.isDigit then some (natOfDigits digits) else none

/-- The decimal that a text without sign spells. -/
def readDecimal? (text : List Char) : Option Decimal :=
  let whole := text.takeWhile Char.isDigit
  let rest := text.dropWhile Char.isDigit
  let (fraction, rest) :=
    match rest with
    | '.' :: r => (r.takeWhile Char.isDigit, r.dropWhile Char.isDigit)
    | r => ([], r)
  if whole = [] && fraction = [] then none
  else
    let coefficient := natOfDigits (whole ++ fraction)
    match rest with
    | [] => some ⟨coefficient, -(fraction.length : Int)⟩
    | c :: digits =>
      if c = 'e' || c = 'E' then
        (readExponent? digits).map fun e => ⟨coefficient, e - (fraction.length : Int)⟩
      else none

/-- The number that a text without sign spells. -/
def readUnsignedFloat? (text : List Char) : Option Float :=
  match readDecimal? text with
  | some d => some d.toFloat
  | none =>
    let word := String.ofList (text.map Char.toLower)
    if word = "inf" || word = "infinity" then some infinity
    else if word = "nan" then some notANumber
    else none

/-- The number that a text spells. -/
def readFloat? : List Char → Option Float
  | '-' :: text => (readUnsignedFloat? text).map fun x => -x
  | '+' :: text => readUnsignedFloat? text
  | text => readUnsignedFloat? text

end MetadataGateway.Number
