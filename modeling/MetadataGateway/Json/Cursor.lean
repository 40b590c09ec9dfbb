/-!
# A place in a text

A cursor is what is still to be read of a text, with the line and column reached. Lines count from 1
and columns from 0, in octets of the text.
-/

namespace MetadataGateway.Json

/-- A line and a column. -/
structure Position where
  line : Nat
  column : Nat
deriving DecidableEq, Repr

/-- The position behind `octets` octets of a character. -/
def Position.within (p : Position) (c : Char) (octets : Nat) : Position :=
  if c = '\n' then ⟨p.line + 1, 0⟩ else ⟨p.line, p.column + octets⟩

/-- What is still to be read, and where it begins. -/
structure Cursor where
  rest : List Char
  position : Position
deriving DecidableEq, Repr

namespace Cursor

/-- The beginning of a text. -/
def start (text : List Char) : Cursor :=
  ⟨text, ⟨1, 0⟩⟩

/-- The cursor behind the next character. -/
def next (c : Cursor) : Cursor :=
  match c.rest with
  | [] => c
  | x :: r => ⟨r, c.position.within x x.utf8Size⟩

/-- The position behind the first octet of what is still to be read. -/
def ahead (c : Cursor) : Position :=
  match c.rest with
  | [] => c.position
  | x :: _ => c.position.within x 1

/-- The cursor behind the first `n` characters. -/
def skip (c : Cursor) : Nat → Cursor
  | 0 => c
  | n + 1 => c.next.skip n

/-- The number of octets of a text. -/
def octets (text : List Char) : Nat :=
  text.foldl (fun n c => n + c.utf8Size) 0

/-- The position behind the first `n` octets of a text that begins at a position. -/
def positionAfter (p : Position) : List Char → Nat → Position
  | [], _ => p
  | x :: r, n =>
    if n = 0 then p
    else if n < x.utf8Size then p.within x n
    else positionAfter (p.within x x.utf8Size) r (n - x.utf8Size)

/-- The characters that may stand between tokens. -/
def isBlank (c : Char) : Bool :=
  c == ' ' || c == '\n' || c == '\t' || c == '\r'

/-- The cursor behind the blanks it stands at. -/
def skipBlanks (c : Cursor) : Cursor :=
  c.skip (c.rest.takeWhile isBlank).length

end Cursor

end MetadataGateway.Json
