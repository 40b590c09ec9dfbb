import MetadataGateway.Text.Graphic

/-!
# Quoted texts

A text between double quotes, for people to read in a message: the quote and the backslash are
written behind a backslash, the usual controls by their letter, and any other character that cannot
be shown as itself by its code point in hexadecimal digits between braces.
-/

namespace MetadataGateway.Text

/-- The hexadecimal digits of a number, without leading zeros. -/
def hexDigits (n : Nat) : List Char :=
  Nat.toDigits 16 n

/-- How one character is written between quotes. -/
def quoteChar (c : Char) : List Char :=
  if c = '\x00' then ['\\', '0']
  else if c = '\t' then ['\\', 't']
  else if c = '\r' then ['\\', 'r']
  else if c = '\n' then ['\\', 'n']
  else if c = '\x22' then ['\\', '\x22']
  else if c = '\\' then ['\\', '\\']
  else if isShown c then [c]
  else ['\\', 'u', '\x7B'] ++ hexDigits c.toNat ++ ['\x7D']

/-- A text between double quotes. -/
def quote (text : List Char) : List Char :=
  '\x22' :: text.flatMap quoteChar ++ ['\x22']

/-- A string between double quotes. -/
def quoteString (text : String) : String :=
  String.ofList (quote text.toList)

end MetadataGateway.Text
