import MetadataGateway.Calendar
import MetadataGateway.Number.FloatText
import MetadataGateway.Text.Hex
import MetadataGateway.Toml.Document

/-!
# Numbers, dates and times

Underscores may separate the digits of a number. An integer has 64 bits, and may be written to the
base 2, 8 or 16 if it has no sign. A number with a fraction or a power of ten is a double, which may
not be infinite for its size, except below zero. A date has to be one of the calendar.
-/

namespace MetadataGateway.Toml

open Number Text

/-! ## Numbers -/

/-- The digits that a text goes on with, without the underscores between them, and what stands
behind them. -/
def moreDigits (isDigit : Char → Bool) : List Char → List Char × List Char
  | [] => ([], [])
  | [c] => if isDigit c then ([c], []) else ([], [c])
  | c :: d :: rest =>
    if isDigit c then
      let (digits, behind) := moreDigits isDigit (d :: rest)
      (c :: digits, behind)
    else if c == '_' && isDigit d then
      let (digits, behind) := moreDigits isDigit rest
      (d :: digits, behind)
    else ([], c :: d :: rest)

/-- The digits that a text begins with, of which there is at least one. -/
def digits? (isDigit : Char → Bool) (text : List Char) : Option (List Char × List Char) :=
  if text.head?.any isDigit then some (moreDigits isDigit text) else none

/-- The digits of a whole number; a zero at their front stands alone. -/
def whole? : List Char → Option (List Char × List Char)
  | '0' :: rest => some (['0'], rest)
  | text => digits? Char.isDigit text

/-- A point and digits, if a text goes on with a point. -/
def fraction? : List Char → Option (List Char × List Char)
  | '.' :: rest => (digits? Char.isDigit rest).map fun (digits, behind) => ('.' :: digits, behind)
  | text => some ([], text)

/-- The sign that a text begins with, if it does. -/
def sign : List Char → List Char × List Char
  | '+' :: rest => (['+'], rest)
  | '-' :: rest => (['-'], rest)
  | text => ([], text)

/-- A power of ten, if a text goes on with its letter. -/
def exponent? : List Char → Option (List Char × List Char)
  | [] => some ([], [])
  | c :: rest =>
    if c == 'e' || c == 'E' then
      let (s, rest) := sign rest
      (digits? Char.isDigit rest).map fun (digits, behind) => ('e' :: s ++ digits, behind)
    else some ([], c :: rest)

/-- The integer of 64 bits that a text spells. -/
def integer? (text : List Char) : Option Value :=
  match readInt64 text with
  | .ok n => some (.integer n)
  | .error _ => none

/-- The double that a text spells, unless it is too large. -/
def float? (text : List Char) : Option Value :=
  match readFloat? text with
  | some x => if x == infinity then none else some (.float x)
  | none => none

/-- A number in decimal digits behind its sign. -/
def decimal? (s text : List Char) : Option (Value × List Char) := do
  let (whole, rest) ← whole? text
  let (fraction, rest) ← fraction? rest
  let (exponent, rest) ← exponent? rest
  let digits := s ++ whole ++ fraction ++ exponent
  let v ← if fraction.isEmpty && exponent.isEmpty then integer? digits else float? digits
  some (v, rest)

/-- The digits of a base. -/
def isDigitOf (base : Nat) (c : Char) : Bool :=
  (hexDigit? c).any (· < base)

/-- An integer in the digits of a base. -/
def based? (base : Nat) (text : List Char) : Option (Value × List Char) := do
  let (digits, rest) ← digits? (isDigitOf base) text
  let n := digits.foldl (fun n c => n * base + (hexDigit? c).getD 0) 0
  if n < 9223372036854775808 then some (.integer n, rest) else none

/-- A number behind its sign. -/
def signedNumber? (s : List Char) : List Char → Option (Value × List Char)
  | 'i' :: 'n' :: 'f' :: rest => some (.float (if s = ['-'] then -infinity else infinity), rest)
  | 'n' :: 'a' :: 'n' :: rest => some (.float notANumber, rest)
  | text => decimal? s text

/-- The number that a text begins with. -/
def number? : List Char → Option (Value × List Char)
  | '0' :: 'x' :: rest => based? 16 rest
  | '0' :: 'o' :: rest => based? 8 rest
  | '0' :: 'b' :: rest => based? 2 rest
  | text => let (s, rest) := sign text; signedNumber? s rest

/-! ## Dates and times -/

/-- The number of exactly `count` digits, between two limits, and what stands behind it. -/
def field? (count least greatest : Nat) (text : List Char) : Option (Nat × List Char) :=
  let digits := text.take count
  let n := natOfDigits digits
  if digits.length = count && digits.all Char.isDigit && least ≤ n && n ≤ greatest then
    some (n, text.drop count)
  else none

/-- What stands behind a character that a text has to begin with. -/
def mark? (c : Char) : List Char → Option (List Char)
  | [] => none
  | x :: rest => if x = c then some rest else none

/-- What stands behind the date that a text begins with. -/
def date? (text : List Char) : Option (List Char) := do
  let (year, rest) ← field? 4 0 9999 text
  let (month, rest) ← field? 2 1 12 (← mark? '-' rest)
  let (day, rest) ← field? 2 1 31 (← mark? '-' rest)
  if Calendar.Date.exists ⟨year, month, day⟩ then some rest else none

/-- What stands behind the fraction of a second, if there is one. -/
def skipFraction : List Char → List Char
  | '.' :: c :: rest => if c.isDigit then rest.dropWhile Char.isDigit else '.' :: c :: rest
  | text => text

/-- What stands behind the time that a text begins with. -/
def time? (text : List Char) : Option (List Char) := do
  let (_, rest) ← field? 2 0 23 text
  let (_, rest) ← field? 2 0 59 (← mark? ':' rest)
  let (_, rest) ← field? 2 0 60 (← mark? ':' rest)
  some (skipFraction rest)

/-- What stands behind the offset that a text begins with. -/
def offset? : List Char → Option (List Char)
  | [] => none
  | c :: rest =>
    if c == 'Z' || c == 'z' then some rest
    else if c == '+' || c == '-' then do
      let (_, rest) ← field? 2 0 23 rest
      let (_, rest) ← field? 2 0 59 (← mark? ':' rest)
      some rest
    else none

/-- What stands behind the time behind a date, with its offset. -/
def timeBehindDate? : List Char → Option (List Char)
  | [] => none
  | c :: rest =>
    if c == 'T' || c == 't' || c == ' ' then
      (time? rest).map fun rest => (offset? rest).getD rest
    else none

/-- The date or time that a text begins with. -/
def moment? (text : List Char) : Option (Value × List Char) :=
  match date? text with
  | some rest => some (.moment, (timeBehindDate? rest).getD rest)
  | none => (time? text).map fun rest => (.moment, rest)

end MetadataGateway.Toml
