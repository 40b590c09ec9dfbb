import MetadataGateway.Toml.Document
import MetadataGateway.Toml.Number
import MetadataGateway.Toml.Text

/-!
# Documents from text

A text is a line for each statement, with blanks and comments between them. Arrays and tables in
braces are nested less than 80 levels deep, and a dotted name has less than 80 parts. A text that is
no document is refused without saying where.
-/

namespace MetadataGateway.Toml

/-! ## Names -/

/-- The characters of a name without quotes. -/
def isBare (c : Char) : Bool :=
  c.isAlphanum || c == '-' || c == '_'

/-- The simple name that a text begins with. -/
def simpleName? (text : List Char) : Option (List Char × List Char) :=
  match lineString? text with
  | some found => some found
  | none =>
    let name := text.takeWhile isBare
    if name.isEmpty then none else some (name, text.drop name.length)

/-- The dotted name of at most so many parts that a text begins with. -/
def dottedName? : Nat → List Char → Option (List String × List Char)
  | 0, _ => none
  | parts + 1, text => do
    let (name, rest) ← simpleName? (skipBlanks text)
    match skipBlanks rest with
    | '.' :: rest =>
      let (names, rest) ← dottedName? parts rest
      some (String.ofList name :: names, rest)
    | rest => some ([String.ofList name], rest)

/-- The number of levels, and of parts of a name, that is one too many. -/
def depthLimit : Nat := 80

/-- The dotted name that a text begins with: the path and the last part. -/
def name? (text : List Char) : Option (List String × String × List Char) := do
  let (names, rest) ← dottedName? (depthLimit - 1) text
  some (names.dropLast, names.getLastD "", rest)

/-! ## Values -/

/-- What stands behind a word that a text has to begin with. -/
def word? (word text : List Char) : Option (List Char) :=
  if word.isPrefixOf text then some (text.drop word.length) else none

/-- The value without others inside that a text begins with. -/
def simpleValue? (text : List Char) : Option (Value × List Char) :=
  match text with
  | [] => none
  | c :: _ =>
    if c == '\x22' || c == '\x27' then
      (string? text).map fun (s, rest) => (.string (String.ofList s), rest)
    else if c == 't' then (word? "true".toList text).map fun rest => (.boolean true, rest)
    else if c == 'f' then (word? "false".toList text).map fun rest => (.boolean false, rest)
    else if c.isDigit then
      match moment? text with
      | some found => some found
      | none => number? text
    else number? text

/-- The items of an array behind its opening bracket or a comma; `one` reads an item. Every item
takes a character at least, so `fuel` above the length of the text is never used up. -/
def items? (one : List Char → Option (Value × List Char)) :
    Nat → List Char → Option (List Value × List Char)
  | 0, _ => none
  | fuel + 1, text =>
    match skipGap text with
    | ']' :: rest => some ([], rest)
    | text => do
      let (v, rest) ← one text
      match skipGap rest with
      | ',' :: rest =>
        let (vs, rest) ← items? one fuel rest
        some (v :: vs, rest)
      | ']' :: rest => some ([v], rest)
      | _ => none

/-- The pair that a text begins with; `one` reads its value. -/
def pair? (one : List Char → Option (Value × List Char)) (text : List Char) :
    Option ((List String × String × Value) × List Char) := do
  let (path, name, rest) ← name? text
  let (v, rest) ← one (skipBlanks (← mark? '=' rest))
  some ((path, name, v), rest)

/-- The pairs of a table in braces behind its opening brace or a comma; `one` reads a value. Every
pair takes a character at least, so `fuel` above the length of the text is never used up. -/
def pairs? (one : List Char → Option (Value × List Char)) :
    Nat → List Char → Option (List (List String × String × Value) × List Char)
  | 0, _ => none
  | fuel + 1, text => do
    let (p, rest) ← pair? one text
    match skipBlanks rest with
    | ',' :: rest =>
      let (ps, rest) ← pairs? one fuel rest
      some (p :: ps, rest)
    | '\x7D' :: rest => some ([p], rest)
    | _ => none

/-- A table in braces behind its opening brace. -/
def braces? (one : List Char → Option (Value × List Char)) (text : List Char) :
    Option (Value × List Char) :=
  match skipBlanks text with
  | '\x7D' :: rest => some (.table [], rest)
  | text => do
    let (ps, rest) ← pairs? one (text.length + 1) text
    some (.table (← Table.ofPairs ps), rest)

/-- The value that a text begins with, if it has room within so many levels. -/
def value? : Nat → List Char → Option (Value × List Char)
  | 0, text => simpleValue? text
  | depth + 1, text =>
    match text with
    | '[' :: rest =>
      (items? (value? depth) (rest.length + 1) rest).map fun (vs, rest) => (.array vs, rest)
    | '\x7B' :: rest => braces? (value? depth) rest
    | text => simpleValue? text

/-! ## Statements -/

/-- The header that a text begins with. -/
def header? : List Char → Option (Statement × List Char)
  | '[' :: '[' :: text => do
    let (path, name, rest) ← name? text
    some (.item path name, ← mark? ']' (← mark? ']' rest))
  | '[' :: text => do
    let (path, name, rest) ← name? text
    some (.table path name, ← mark? ']' rest)
  | _ => none

/-- The statement that a text begins with. -/
def statement? (text : List Char) : Option (Statement × List Char) :=
  if text.head? == some '[' then header? text
  else
    (pair? (value? (depthLimit - 1)) text).map fun ((path, name, v), rest) =>
      (.pair path name v, rest)

/-- The statements of a text. Every line takes a character at least, so `fuel` above the length of
the text is never used up. -/
def statements? : Nat → List Char → Option (List Statement)
  | 0, _ => none
  | fuel + 1, text =>
    match skipBlanks text with
    | [] => some []
    | c :: rest =>
      if c == '#' || c == '\n' || c == '\r' then do statements? fuel (← lineRest? (c :: rest))
      else do
        let (s, rest) ← statement? (c :: rest)
        let statements ← statements? fuel (← lineRest? rest)
        some (s :: statements)

/-- A text without the byte order mark it may begin with. -/
def skipByteOrderMark : List Char → List Char
  | '\uFEFF' :: rest => rest
  | text => text

/-- The members of the table that a text describes. -/
def ofText? (text : List Char) : Option (List (String × Value)) :=
  let text := skipByteOrderMark text
  (statements? (text.length + 1) text).bind ofStatements

end MetadataGateway.Toml
