import MetadataGateway.Text.Hex

/-!
# Tables from characters to texts

A table from characters to texts is written in rows. A row has the code point of its first character
and, with spaces between them, the texts of this character and of those behind it. A text is its
code points in hexadecimal digits with plus signs between them.
-/

namespace MetadataGateway.Text

/-- The rows of a table from characters to texts, in order: the code point of the first character of
a row, and the texts of the row. -/
abbrev Rows := List (Nat × List (List Char))

namespace Rows

/-- The text that is written as code points with plus signs between them. -/
def word (digits : List Char) : List Char :=
  (digits.splitOn '+').filterMap fun code => (natOfHex? code).map Char.ofNat

/-- The rows that are written. -/
def ofWritten (rows : List (Nat × String)) : Rows :=
  rows.map fun (first, words) => (first, (words.toList.splitOn ' ').map word)

/-- The text of a code point. -/
def find? (n : Nat) : Rows → Option (List Char)
  | [] => none
  | (first, texts) :: rest =>
    if n < first then none
    else
      match texts[n - first]? with
      | some text => some text
      | none => find? n rest

/-- The first code point whose text is the one looked for. -/
def indexOf? (text : List Char) : Rows → Option Nat
  | [] => none
  | (first, texts) :: rest =>
    match texts.findIdx? (· == text) with
    | some i => some (first + i)
    | none => indexOf? text rest

end Rows

end MetadataGateway.Text
