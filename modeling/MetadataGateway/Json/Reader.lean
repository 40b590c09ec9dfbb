import MetadataGateway.Json.Basic
import MetadataGateway.Json.Cursor
import MetadataGateway.Json.Writer
import MetadataGateway.Number.FloatText
import MetadataGateway.Text.Hex

/-!
# JSON from text

The reader takes one value from the front of a text, by the grammar of JSON, and says where and why
it stops when it cannot. A text holds one value with blanks around it, nested less than 128 levels
deep. A value may be quoted: an object whose first member has a certain name stands for the value
that is the text of that member, a string, and may have no other member.

A number with a fraction or a power of ten is read quickly rather than exactly: its digits as far as
64 bits hold them make a double, which is multiplied or divided by a power of ten, so that the last
bit may differ from that of the nearest double.
-/

namespace MetadataGateway.Json

open Number Text

/-- What is wrong with a text. -/
inductive Fault where
  | unfinishedArray
  | unfinishedObject
  | unfinishedString
  | unfinishedValue
  | expectedColon
  | expectedArrayEnd
  | expectedObjectEnd
  | expectedWord
  | expectedValue
  | invalidEscape
  | invalidNumber
  | numberOutOfRange
  | controlCharacter
  | nameNotString
  | loneSurrogate
  | trailingComma
  | trailingCharacters
  | unexpectedEndOfEscape
  | tooDeep
  /-- Something else stands where a value is to be quoted. -/
  | notQuoted (found : String)
deriving DecidableEq, Repr

/-- The wording of a fault. -/
def Fault.message : Fault → String
  | .unfinishedArray => "EOF while parsing a list"
  | .unfinishedObject => "EOF while parsing an object"
  | .unfinishedString => "EOF while parsing a string"
  | .unfinishedValue => "EOF while parsing a value"
  | .expectedColon => "expected `:`"
  | .expectedArrayEnd => "expected `,` or `]`"
  | .expectedObjectEnd => "expected `,` or `\x7d`"
  | .expectedWord => "expected ident"
  | .expectedValue => "expected value"
  | .invalidEscape => "invalid escape"
  | .invalidNumber => "invalid number"
  | .numberOutOfRange => "number out of range"
  | .controlCharacter => "control character (\\u0000-\\u001F) found while parsing a string"
  | .nameNotString => "key must be a string"
  | .loneSurrogate => "lone leading surrogate in hex escape"
  | .trailingComma => "trailing comma"
  | .trailingCharacters => "trailing characters"
  | .unexpectedEndOfEscape => "unexpected end of hex escape"
  | .tooDeep => "recursion limit exceeded"
  | .notQuoted found => "invalid type: " ++ found ++ ", expected raw value"

/-- A fault and its position. -/
structure Error where
  fault : Fault
  position : Position
deriving DecidableEq, Repr

/-- The wording of an error. -/
def Error.message (e : Error) : String :=
  e.fault.message ++ " at line " ++ toString e.position.line ++ " column "
    ++ toString e.position.column

namespace Cursor

/-- A fault at the position reached. -/
def fail {α : Type} (c : Cursor) (fault : Fault) : Except Error α :=
  .error ⟨fault, c.position⟩

/-- A fault behind the first octet of what is still to be read. -/
def failAhead {α : Type} (c : Cursor) (fault : Fault) : Except Error α :=
  .error ⟨fault, c.ahead⟩

/-- The rest of one of the words `null`, `true` and `false`. -/
def word (c : Cursor) : List Char → Except Error Cursor
  | [] => .ok c
  | x :: xs =>
    match c.rest with
    | [] => c.fail .unfinishedValue
    | y :: _ => if y = x then c.next.word xs else c.failAhead .expectedWord

end Cursor

/-! ## Numbers -/

/-- The leading digits that keep a number within 64 bits: the number with them, and how many they
are. -/
def absorb (n : Nat) : List Char → Nat × Nat
  | [] => (n, 0)
  | c :: rest =>
    if greatest < n * 10 + digitValue c then (n, 0)
    else
      let (m, used) := absorb (n * 10 + digitValue c) rest
      (m, used + 1)

/-- The power of ten with an exponent of at most 308. -/
def powerOfTen (e : Nat) : Float :=
  Float.ofScientific 1 false e

/-- A number times ten to the power of a negative exponent, by divisions of at most 10^308 each;
three such divisions leave nothing of any 64 bits. -/
def scaleDown : Nat → Float → Nat → Float
  | 0, _, _ => 0.0
  | steps + 1, x, e => if e ≤ 308 then x / powerOfTen e else scaleDown steps (x / 1e308) (e - 308)

/-- `significand` times ten to the power of `exponent`, unless that is beyond all doubles. -/
def scale? (significand : Nat) (exponent : Int) : Option Float :=
  let x := Float.ofNat significand
  if 0 ≤ exponent then
    if exponent ≤ 308 then
      let y := x * powerOfTen exponent.toNat
      if y.isInf then none else some y
    else if significand = 0 then some 0.0
    else none
  else some (scaleDown 3 x (-exponent).toNat)

/-- A number with its sign. -/
def signed (positive : Bool) (x : Float) : Float :=
  if positive then x else -x

/-- The double of a number whose digits end at the cursor. -/
def finishFloat (c : Cursor) (positive : Bool) (significand : Nat) (exponent : Int) :
    Except Error (Json × Cursor) :=
  match scale? significand exponent with
  | some x => .ok (.float (signed positive x), c)
  | none => c.fail .numberOutOfRange

/-- The greatest exponent that is counted. -/
def greatestExponent : Nat := 2147483647

/-- The digits of an exponent from the second on. An exponent beyond all counting makes a number
zero or puts it out of range. -/
def exponentDigits (positive : Bool) (significand : Nat) (start : Int) (positiveExponent : Bool)
    (exponent : Nat) : Cursor → List Char → Except Error (Json × Cursor)
  | c, [] => finishFloat c positive significand (total exponent)
  | c, x :: rest =>
    if !x.isDigit then finishFloat c positive significand (total exponent)
    else if greatestExponent < exponent * 10 + digitValue x then
      if significand != 0 && positiveExponent then c.next.fail .numberOutOfRange
      else .ok (.float (signed positive 0.0), c.skip ((x :: rest).takeWhile Char.isDigit).length)
    else
      exponentDigits positive significand start positiveExponent (exponent * 10 + digitValue x)
        c.next rest
where
  /-- The exponent of the whole number. -/
  total (e : Nat) : Int :=
    if positiveExponent then min (start + e) greatestExponent
    else max (start - e) (-(greatestExponent : Int) - 1)

/-- A power of ten from its letter on. -/
def exponentPart (c : Cursor) (positive : Bool) (significand : Nat) (start : Int) :
    Except Error (Json × Cursor) :=
  let c := c.next
  let positiveExponent := c.rest.head? != some '-'
  let c := if c.rest.head? = some '+' || c.rest.head? = some '-' then c.next else c
  match c.rest with
  | [] => c.fail .unfinishedValue
  | x :: rest =>
    if x.isDigit then
      exponentDigits positive significand start positiveExponent (digitValue x) c.next rest
    else c.failAhead .invalidNumber

/-- What follows the last digit before a power of ten. -/
def afterDigits (c : Cursor) (positive : Bool) (significand : Nat) (exponent : Int) :
    Except Error (Json × Cursor) :=
  match c.rest with
  | 'e' :: _ => exponentPart c positive significand exponent
  | 'E' :: _ => exponentPart c positive significand exponent
  | _ => finishFloat c positive significand exponent

/-- A fraction from its point on. -/
def fractionPart (c : Cursor) (positive : Bool) (significand : Nat) (exponent : Int) :
    Except Error (Json × Cursor) :=
  let c := c.next
  let digits := c.rest.takeWhile Char.isDigit
  if digits = [] then
    match c.rest with
    | [] => c.fail .unfinishedValue
    | _ :: _ => c.failAhead .invalidNumber
  else
    let (m, used) := absorb significand digits
    afterDigits (c.skip digits.length) positive m (exponent - used)

/-- What follows the digits of a whole number, the last `dropped` of which are not in it. -/
def afterWhole (c : Cursor) (positive : Bool) (significand dropped : Nat) :
    Except Error (Json × Cursor) :=
  match c.rest with
  | '.' :: _ => fractionPart c positive significand dropped
  | 'e' :: _ => exponentPart c positive significand dropped
  | 'E' :: _ => exponentPart c positive significand dropped
  | _ =>
    if dropped != 0 then finishFloat c positive significand dropped
    else if positive then .ok (.integer significand, c)
    else if significand = 0 || leastSize < significand then
      .ok (.float (-Float.ofNat significand), c)
    else .ok (.integer (-(significand : Int)), c)

/-- A number behind its sign. -/
def number (c : Cursor) (positive : Bool) : Except Error (Json × Cursor) :=
  match c.rest with
  | [] => c.fail .unfinishedValue
  | x :: rest =>
    if x = '0' then
      match rest with
      | y :: _ =>
        if y.isDigit then c.next.failAhead .invalidNumber else afterWhole c.next positive 0 0
      | [] => afterWhole c.next positive 0 0
    else if x.isDigit then
      let digits := c.rest.takeWhile Char.isDigit
      let (m, used) := absorb 0 digits
      afterWhole (c.skip digits.length) positive m (digits.length - used)
    else c.failAhead .invalidNumber

/-! ## Strings -/

/-- The number of four hexadecimal digits. -/
def fourHexDigits (c : Cursor) : Except Error (Nat × Cursor) :=
  match (c.rest.take 4).mapM hexDigit? with
  | some [p, q, r, s] => .ok (((p * 16 + q) * 16 + r) * 16 + s, c.skip 4)
  | _ =>
    if Cursor.octets c.rest < 4 then
      .error ⟨.unfinishedString, Cursor.positionAfter c.position c.rest (Cursor.octets c.rest)⟩
    else .error ⟨.invalidEscape, Cursor.positionAfter c.position c.rest 4⟩

/-- One character that has to follow the first half of a surrogate pair. -/
def pairMark (c : Cursor) (mark : Char) : Except Error Cursor :=
  match c.rest with
  | [] => c.fail .unfinishedString
  | x :: _ => if x = mark then .ok c.next else c.failAhead .unexpectedEndOfEscape

/-- The character of an escape behind `\u`: one of 16 bits, or a surrogate pair. -/
def unicodeEscape (c : Cursor) : Except Error (Char × Cursor) := do
  let (n, c) ← fourHexDigits c
  if 0xDC00 ≤ n && n ≤ 0xDFFF then c.fail .loneSurrogate
  else if n < 0xD800 || 0xDBFF < n then .ok (Char.ofNat n, c)
  else
    let c ← pairMark c '\\'
    let c ← pairMark c 'u'
    let (m, c) ← fourHexDigits c
    if m < 0xDC00 || 0xDFFF < m then c.fail .loneSurrogate
    else .ok (Char.ofNat ((n - 0xD800) * 0x400 + (m - 0xDC00) + 0x10000), c)

/-- The character of an escape behind its backslash. -/
def escape (c : Cursor) : Except Error (Char × Cursor) :=
  match c.rest with
  | [] => c.fail .unfinishedString
  | x :: _ =>
    match x with
    | '\x22' => .ok ('\x22', c.next)
    | '\\' => .ok ('\\', c.next)
    | '/' => .ok ('/', c.next)
    | 'b' => .ok ('\x08', c.next)
    | 'f' => .ok ('\x0C', c.next)
    | 'n' => .ok ('\n', c.next)
    | 'r' => .ok ('\r', c.next)
    | 't' => .ok ('\t', c.next)
    | 'u' => unicodeEscape c.next
    | _ => c.failAhead .invalidEscape

/-- The characters of a string up to its closing quote. Every step takes a character at least, so
`fuel` above the length of the text is never used up. -/
def stringBody : Nat → Cursor → Except Error (List Char × Cursor)
  | 0, c => c.fail .unfinishedString
  | fuel + 1, c =>
    match c.rest with
    | [] => c.fail .unfinishedString
    | x :: _ =>
      if x = '\x22' then .ok ([], c.next)
      else if x = '\\' then do
        let (y, c) ← escape c.next
        let (ys, c) ← stringBody fuel c
        .ok (y :: ys, c)
      else if x < ' ' then c.failAhead .controlCharacter
      else do
        let (ys, c) ← stringBody fuel c.next
        .ok (x :: ys, c)

/-- A string behind its opening quote. -/
def stringText (c : Cursor) : Except Error (String × Cursor) := do
  let (text, c) ← stringBody (c.rest.length + 1) c
  .ok (String.ofList text, c)

/-! ## Values -/

/-- The items of an array behind its opening bracket or behind one of its items, up to its closing
bracket; `one` reads an item. Every item takes a character at least, so `fuel` above the length of
the text is never used up. -/
def items (one : Cursor → Except Error (Json × Cursor)) :
    Nat → Bool → Cursor → Except Error (List Json × Cursor)
  | 0, _, c => c.fail .unfinishedArray
  | fuel + 1, first, c =>
    let c := c.skipBlanks
    match c.rest with
    | [] => c.fail .unfinishedArray
    | x :: _ =>
      if x = ']' then .ok ([], c.next)
      else if first then more fuel c
      else if x = ',' then
        let c := c.next.skipBlanks
        match c.rest with
        | [] => c.fail .unfinishedValue
        | y :: _ => if y = ']' then c.failAhead .trailingComma else more fuel c
      else c.failAhead .expectedArrayEnd
where
  /-- An item and those behind it. -/
  more (fuel : Nat) (c : Cursor) : Except Error (List Json × Cursor) := do
    let (v, c) ← one c
    let (vs, c) ← items one fuel false c
    .ok (v :: vs, c)

/-- The colon behind a name. -/
def colon (c : Cursor) : Except Error Cursor :=
  let c := c.skipBlanks
  match c.rest with
  | [] => c.fail .unfinishedObject
  | x :: _ => if x = ':' then .ok c.next else c.failAhead .expectedColon

/-- The members of an object behind its opening brace or behind one of its members, up to its
closing brace, put to those in `found`; `one` reads a value. Every member takes a character at
least, so `fuel` above the length of the text is never used up. -/
def members (one : Cursor → Except Error (Json × Cursor)) :
    Nat → Bool → List (String × Json) → Cursor → Except Error (List (String × Json) × Cursor)
  | 0, _, _, c => c.fail .unfinishedObject
  | fuel + 1, first, found, c =>
    let c := c.skipBlanks
    match c.rest with
    | [] => c.fail .unfinishedObject
    | x :: _ =>
      if x = '\x7D' then .ok (found, c.next)
      else if first then
        if x = '\x22' then more fuel found c else c.failAhead .nameNotString
      else if x = ',' then
        let c := c.next.skipBlanks
        match c.rest with
        | [] => c.fail .unfinishedValue
        | y :: _ =>
          if y = '\x22' then more fuel found c
          else if y = '\x7D' then c.failAhead .trailingComma
          else c.failAhead .nameNotString
      else c.failAhead .expectedObjectEnd
where
  /-- A member and those behind it; the cursor stands at the quote of its name. -/
  more (fuel : Nat) (found : List (String × Json)) (c : Cursor) :
      Except Error (List (String × Json) × Cursor) := do
    let (name, c) ← stringText c.next
    let c ← colon c
    let (v, c) ← one c
    members one fuel false (putMember name v found) c

/-- A value that has no others in it. -/
def scalar (c : Cursor) : Except Error (Json × Cursor) :=
  match c.rest with
  | [] => c.fail .unfinishedValue
  | x :: _ =>
    match x with
    | 'n' => do let c ← c.next.word ['u', 'l', 'l']; .ok (.null, c)
    | 't' => do let c ← c.next.word ['r', 'u', 'e']; .ok (.boolean true, c)
    | 'f' => do let c ← c.next.word ['a', 'l', 's', 'e']; .ok (.boolean false, c)
    | '\x22' => do let (s, c) ← stringText c.next; .ok (.string s, c)
    | '-' => number c.next false
    | x => if x.isDigit then number c true else c.failAhead .expectedValue

/-! ## Quoted values -/

/-- The name of the member whose text is the value that its object stands for. -/
def quotedName : String := "$serde_json::private::RawValue"

/-- What a value that is not a string is called. -/
def kindText : Json → String
  | .null => "null"
  | .boolean b => "boolean \x60" ++ toString b ++ "\x60"
  | .integer n => "integer \x60" ++ String.ofList (renderInteger n) ++ "\x60"
  | .float x => "floating point \x60" ++ String.ofList (renderFloat x) ++ "\x60"
  | .string _ => "string"
  | .array _ => "sequence"
  | .object _ => "map"

/-- The string in which a value is quoted, with blanks before it. -/
def quotation (c : Cursor) : Except Error (String × Cursor) :=
  let c := c.skipBlanks
  match c.rest with
  | '\x22' :: _ => stringText c.next
  | '[' :: _ => c.fail (.notQuoted (kindText (.array [])))
  | '\x7B' :: _ => c.fail (.notQuoted (kindText (.object [])))
  | _ => do
    let (v, c) ← scalar c
    c.fail (.notQuoted (kindText v))

/-- The brace behind the member that quotes a value. -/
def quotationEnd (c : Cursor) : Except Error Cursor :=
  let c := c.skipBlanks
  match c.rest with
  | [] => c.fail .unfinishedObject
  | x :: _ =>
    if x = '\x7D' then .ok c.next
    else if x = ',' then c.failAhead .trailingComma
    else c.failAhead .trailingCharacters

/-- The value that stands quoted behind the opening brace of an object, if the object quotes one;
`whole` reads what a text holds. -/
def quoted? (whole : List Char → Except Error Json) (c : Cursor) :
    Except Error (Option (Json × Cursor)) :=
  let c := c.skipBlanks
  match c.rest with
  | '\x22' :: _ => do
    let (name, c) ← stringText c.next
    if name = quotedName then do
      let (text, c) ← quotation (← colon c)
      let v ← whole text.toList
      let c ← quotationEnd c
      .ok (some (v, c))
    else .ok none
  | _ => .ok none

/-! ## Whole texts -/

/-- A value, with blanks before it, that has room for `depth` levels; `whole` reads what a quoted
text holds. -/
def value (whole : List Char → Except Error Json) : Nat → Cursor → Except Error (Json × Cursor)
  | 0, c => c.failAhead .tooDeep
  | depth + 1, c =>
    let c := c.skipBlanks
    match c.rest with
    | '[' :: _ =>
      if depth = 0 then c.failAhead .tooDeep
      else do
        let (vs, c) ← items (value whole depth) (c.rest.length + 1) true c.next
        .ok (.array vs, c)
    | '\x7B' :: _ =>
      if depth = 0 then c.failAhead .tooDeep
      else do
        match ← quoted? whole c.next with
        | some found => .ok found
        | none =>
          let (ms, c) ← members (value whole depth) (c.rest.length + 1) true [] c.next
          .ok (.object ms, c)
    | _ => scalar c

/-- The levels that a text may not reach. -/
def depthLimit : Nat := 128

/-- The value that a text holds, in which values are quoted at most `quotations` times in one
another. -/
def ofTextWithin : Nat → List Char → Except Error Json
  | 0, _ => .error ⟨.tooDeep, ⟨1, 0⟩⟩
  | quotations + 1, text => do
    let (v, c) ← value (ofTextWithin quotations) depthLimit (.start text)
    let c := c.skipBlanks
    match c.rest with
    | [] => .ok v
    | _ :: _ => c.failAhead .trailingCharacters

/-- The value that a text holds. A quoted text is shorter than the one it stands in, so that it may
be quoted as often as the text has characters. -/
def ofText (text : List Char) : Except Error Json :=
  ofTextWithin (text.length + 1) text

end MetadataGateway.Json
