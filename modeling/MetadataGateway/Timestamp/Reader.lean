import MetadataGateway.Text.Blank
import MetadataGateway.Number.IntegerText
import MetadataGateway.Timestamp.Basic

/-!
# Timestamps from text

A text is tried against ten patterns in turn: the strict one of internet timestamps, four with a
distance from UTC, four without, and the date alone. Patterns are lists of items, and reading an
item takes its characters from the text and notes what they say. In all but the strict pattern a
number may have fewer digits than usual and white space before it, and a year with a sign may have
any number of digits.
-/

namespace MetadataGateway.Timestamp

open Calendar Text Number

/-- The parts of a date and time that are numbers. -/
inductive Field where
  | year | month | day | hour | minute | second
deriving DecidableEq, Repr

/-- The usual number of digits of a part. -/
def Field.width : Field → Nat
  | .year => 4
  | _ => 2

/-- The items that patterns are made of. -/
inductive Item where
  /-- A number in exactly its usual digits. -/
  | exact (f : Field)
  /-- A number in at most its usual digits, a signed year in any, with white space before it. -/
  | loose (f : Field)
  /-- This character. -/
  | mark (c : Char)
  /-- One of `T`, `t` and a space. -/
  | timeMark
  /-- Any white space, also none. -/
  | blanks
  /-- A point and the digits of a fraction, or nothing. -/
  | fraction
  /-- `Z`, or hours and minutes with a colon between them. -/
  | exactZone
  /-- `Z`, or hours and perhaps minutes, with white space before them and any colons and white
  space between them. -/
  | looseZone
deriving DecidableEq, Repr

/-- What has been read so far. -/
structure Draft where
  year : Int
  month : Nat
  day : Nat
  hour : Nat
  minute : Nat
  second : Nat
  nanos : Nat
  offset : Int
deriving DecidableEq, Repr

namespace Draft

/-- Nothing read: midnight UTC. -/
def start : Draft := ⟨0, 0, 0, 0, 0, 0, 0, 0⟩

/-- Note a number. -/
def note (d : Draft) (f : Field) (n : Int) : Draft :=
  match f with
  | .year => { d with year := n }
  | .month => { d with month := n.toNat }
  | .day => { d with day := n.toNat }
  | .hour => { d with hour := n.toNat }
  | .minute => { d with minute := n.toNat }
  | .second => { d with second := n.toNat }

/-- The local date and time that was read. -/
def toLocal (d : Draft) : Local :=
  { date := ⟨d.year, d.month, d.day⟩, hour := d.hour, minute := d.minute, second := d.second
    nanos := d.nanos, offset := d.offset }

end Draft

/-- A number of `least` to `most` digits, and the text behind it. -/
def takeNumber? (least most : Nat) (text : List Char) : Option (Nat × List Char) :=
  let digits := (text.take most).takeWhile Char.isDigit
  if least ≤ digits.length then some (natOfDigits digits, text.drop digits.length) else none

/-- A number of any digits, at least one, and the text behind it. -/
def takeDigits? (text : List Char) : Option (Nat × List Char) :=
  takeNumber? 1 text.length text

/-- A number without exact width, and the text behind it. -/
def takeLoose? (f : Field) (text : List Char) : Option (Int × List Char) :=
  match f, trimStart text with
  | .year, '-' :: r => (takeDigits? r).map fun (n, r) => (-(n : Int), r)
  | .year, '+' :: r => (takeDigits? r).map fun (n, r) => ((n : Int), r)
  | f, r => (takeNumber? 1 f.width r).map fun (n, r) => ((n : Int), r)

/-- The nanoseconds that the digits of a fraction spell; digits behind the ninth do not count. -/
def nanosOfDigits (digits : List Char) : Nat :=
  let nine := digits.take 9
  natOfDigits nine * Nat.pow 10 (9 - nine.length)

/-- The sign of a distance from UTC, which may be a true minus sign. -/
def takeSign? : List Char → Option (Int × List Char)
  | '+' :: r => some (1, r)
  | '-' :: r => some (-1, r)
  | '\u2212' :: r => some (-1, r)
  | _ => none

/-- Two digits, and the text behind them. -/
def takeTwo? (text : List Char) : Option (Nat × List Char) :=
  takeNumber? 2 2 text

/-- Minutes of a distance from UTC that have to be there. -/
def takeMinutes? (text : List Char) : Option (Nat × List Char) :=
  (takeTwo? text).bind fun (n, r) => if n ≤ 59 then some (n, r) else none

/-- A distance from UTC in hours and minutes with exactly one colon between them. -/
def takeExactZone? : List Char → Option (Int × List Char)
  | 'Z' :: r => some (0, r)
  | 'z' :: r => some (0, r)
  | text => do
    let (sign, r) ← takeSign? text
    let (hours, r) ← takeTwo? r
    match r with
    | ':' :: r =>
      let (minutes, r) ← takeMinutes? r
      some (sign * (3600 * hours + 60 * minutes), r)
    | _ => none

/-- A distance from UTC whose minutes may be missing at the end of the text. -/
def takeLooseZone? (text : List Char) : Option (Int × List Char) :=
  match trimStart text with
  | 'Z' :: r => some (0, r)
  | 'z' :: r => some (0, r)
  | text => do
    let (sign, r) ← takeSign? text
    let (hours, r) ← takeTwo? r
    match r.dropWhile fun c => c == ':' || isBlank c with
    | [] => some (sign * (3600 * hours), [])
    | r =>
      let (minutes, r) ← takeMinutes? r
      some (sign * (3600 * hours + 60 * minutes), r)

/-- Read one item: what is known behind it, and the text behind it. -/
def Item.read? (item : Item) (d : Draft) (text : List Char) : Option (Draft × List Char) :=
  match item with
  | .exact f => (takeNumber? f.width f.width text).map fun (n, r) => (d.note f n, r)
  | .loose f => (takeLoose? f text).map fun (n, r) => (d.note f n, r)
  | .mark c => if text.head? = some c then some (d, text.tail) else none
  | .timeMark =>
    match text with
    | 'T' :: r => some (d, r)
    | 't' :: r => some (d, r)
    | ' ' :: r => some (d, r)
    | _ => none
  | .blanks => some (d, trimStart text)
  | .fraction =>
    match text with
    | '.' :: r =>
      let digits := r.takeWhile Char.isDigit
      if digits = [] then none
      else some ({ d with nanos := nanosOfDigits digits }, r.dropWhile Char.isDigit)
    | _ => some (d, text)
  | .exactZone => (takeExactZone? text).map fun (n, r) => ({ d with offset := n }, r)
  | .looseZone => (takeLooseZone? text).map fun (n, r) => ({ d with offset := n }, r)

/-- Read a whole text by a pattern. -/
def readItems? : List Item → Draft → List Char → Option Draft
  | [], d, text => if text = [] then some d else none
  | item :: items, d, text => do
    let (d, r) ← item.read? d text
    readItems? items d r

/-- The items of a date. -/
def dateItems : List Item :=
  [.loose .year, .mark '-', .loose .month, .mark '-', .loose .day]

/-- The items of hours and minutes. -/
def minuteItems : List Item :=
  [.loose .hour, .mark ':', .loose .minute]

/-- The items of hours, minutes and seconds. -/
def secondItems : List Item :=
  minuteItems ++ [.mark ':', .loose .second, .fraction]

/-- The ten patterns, in the order in which they are tried. -/
def patterns : List (List Item) :=
  [ [.exact .year, .mark '-', .exact .month, .mark '-', .exact .day, .timeMark, .exact .hour,
      .mark ':', .exact .minute, .mark ':', .exact .second, .fraction, .exactZone],
    dateItems ++ .mark 'T' :: secondItems ++ [.looseZone],
    dateItems ++ .blanks :: secondItems ++ [.looseZone],
    dateItems ++ .mark 'T' :: minuteItems ++ [.looseZone],
    dateItems ++ .blanks :: minuteItems ++ [.looseZone],
    dateItems ++ .mark 'T' :: secondItems,
    dateItems ++ .blanks :: secondItems,
    dateItems ++ .mark 'T' :: minuteItems,
    dateItems ++ .blanks :: minuteItems,
    dateItems ]

/-- The timestamp that a text spells by one pattern. -/
def readBy? (pattern : List Item) (text : List Char) : Option Timestamp :=
  (readItems? pattern .start text).bind fun d => ofLocal? d.toLocal

/-- A text without white space at its ends, and without ` UTC` behind it. -/
def withoutZoneName (text : List Char) : List Char :=
  let text := trim text
  match dropEnding? " UTC".toList text with
  | some before => trimEnd before
  | none => text

/-- The timestamp that a text spells: by the first pattern that accepts it. -/
def read? (text : List Char) : Option Timestamp :=
  patterns.findSome? fun pattern => readBy? pattern (withoutZoneName text)

end MetadataGateway.Timestamp
