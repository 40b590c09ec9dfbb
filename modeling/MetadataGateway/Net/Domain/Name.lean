import MetadataGateway.Net.Domain.Direction
import MetadataGateway.Net.Domain.Joining
import MetadataGateway.Net.Domain.Mapping
import MetadataGateway.Net.Domain.Punycode

/-!
# Domain names

A domain name is labels with points between them, and is asked for in ASCII. What is written stands
for a composed text of plain characters; a label of it with characters beyond ASCII is then written
in ASCII behind a mark. A label that has the mark already has to be one that could have been written
without it. No name has a character that delimits other parts of a URL.
-/

namespace MetadataGateway.Net.Domain

open Text

/-- The characters that no domain name has. -/
def isForbidden (c : Char) : Bool :=
  c ≤ ' ' || c == '\x7F' || "#%/:<>?@[\\]^|".toList.contains c

/-- The mark of a label that is written in ASCII for one that is not. -/
def asciiMark : List Char := "xn--".toList

/-- How many characters there may be behind the mark. -/
def maxEncoded : Nat := 2000

/-- How many characters a label beyond ASCII may have. -/
def maxLabel : Nat := 1000

/-- Whether all characters of a text are ASCII. -/
def isAscii (text : List Char) : Bool :=
  text.all fun c => c.toNat < 0x80

/-- Whether a label is what it stands for. -/
def isSettled (label : List Char) : Bool :=
  label.all isPlain && compose label == label

/-- The label that is written behind the mark. -/
def decoded? (written : List Char) : Option (List Char) := do
  if written.length ≤ maxEncoded && isAscii written && written.getLast?.any (· != '-') then
    let label ← Punycode.decode? written
    if isSettled label then some label else none
  else none

/-- The label that a label of a name shows. -/
def shown? (label : List Char) : Option (List Char) :=
  if asciiMark.isPrefixOf label then decoded? (label.drop asciiMark.length) else some label

/-- Whether a label may be shown: it does not begin with a mark on the character before, its joiners
stand where they may, and it is not too long. -/
def mayShow (label : List Char) : Bool :=
  !label.head?.any isMark && joinersStand [] label
    && (isAscii label || label.length ≤ maxLabel)

/-- A label in ASCII. -/
def asciiLabel (label : List Char) : List Char :=
  if isAscii label then label else asciiMark ++ Punycode.encode label

/-- A domain name in ASCII, if a text is one. -/
def ascii? (name : List Char) : Option (List Char) := do
  let text := compose (← meaningOf? name)
  if text.any isForbidden then none
  else
    let labels := text.splitOn '.'
    let shown ← labels.mapM shown?
    if shown.all mayShow && areReadable shown then
      some (['.'].intercalate (labels.map asciiLabel))
    else none

end MetadataGateway.Net.Domain
