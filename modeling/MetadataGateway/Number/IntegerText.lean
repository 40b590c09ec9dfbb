/-!
# Integers from text

An integer is written as an optional sign and one or more decimal digits, and lies between two
limits. Digits are read from the left, and the first thing that is wrong decides the error: a
character that is no digit, or a digit that takes the number beyond its limit.
-/

namespace MetadataGateway.Number

/-- Why a text is no integer of its type. -/
inductive IntegerError where
  | empty
  | invalidDigit
  | tooLarge
  | tooSmall
deriving DecidableEq, Repr

/-- The wording of an integer error. -/
def IntegerError.message : IntegerError → String
  | .empty => "cannot parse integer from empty string"
  | .invalidDigit => "invalid digit found in string"
  | .tooLarge => "number too large to fit in target type"
  | .tooSmall => "number too small to fit in target type"

/-- The value of a decimal digit. -/
def digitValue (c : Char) : Nat :=
  c.toNat - '0'.toNat

/-- The number that decimal digits spell behind a number already read, at most `limit`; `beyond` is
the error of a greater one. -/
def readMagnitude (limit : Nat) (beyond : IntegerError) (read : Nat) :
    List Char → Except IntegerError Nat
  | [] => .ok read
  | c :: rest =>
    if !c.isDigit then .error .invalidDigit
    else if limit < read * 10 + digitValue c then .error beyond
    else readMagnitude limit beyond (read * 10 + digitValue c) rest

/-- The digits behind a sign, of which there is at least one. -/
def readSigned (limit : Nat) (beyond : IntegerError) (digits : List Char) :
    Except IntegerError Nat :=
  if digits = [] then .error .invalidDigit else readMagnitude limit beyond 0 digits

/-- The integer that a text spells, at least `-below` and at most `above`. -/
def readInteger (below above : Nat) : List Char → Except IntegerError Int
  | [] => .error .empty
  | '-' :: digits => (readSigned below .tooSmall digits).map fun n => -(n : Int)
  | '+' :: digits => (readSigned above .tooLarge digits).map fun n => (n : Int)
  | digits => (readMagnitude above .tooLarge 0 digits).map fun n => (n : Int)

/-- The integer of 32 bits that a text spells. -/
def readInt32 (text : List Char) : Except IntegerError Int :=
  readInteger 2147483648 2147483647 text

/-- The integer of 64 bits that a text spells. -/
def readInt64 (text : List Char) : Except IntegerError Int :=
  readInteger 9223372036854775808 9223372036854775807 text

/-- The number that decimal digits spell. -/
def natOfDigits (digits : List Char) : Nat :=
  digits.foldl (fun n c => n * 10 + digitValue c) 0

end MetadataGateway.Number
