import MetadataGateway.Text.Hex

/-!
# Blanks, comments and strings

The parts of a TOML text that stand for themselves. A line ends with a line feed, before which a
carriage return may stand. Control characters stand nowhere, except for tabs. A string stands in
quotation marks, where a backslash escapes, or in apostrophes, where it does not; a string over
several lines has three of them at either end.
-/

namespace MetadataGateway.Toml

open Text

/-- The characters that separate without ending a line. -/
def isBlank (c : Char) : Bool :=
  c == ' ' || c == '\t'

/-- The characters of a line. -/
def isText (c : Char) : Bool :=
  c == '\t' || (' ' ≤ c && c != '\x7F')

/-- A text without the blanks it begins with. -/
def skipBlanks (text : List Char) : List Char :=
  text.dropWhile isBlank

/-- What stands behind the end of a line that a text begins with. -/
def newline? : List Char → Option (List Char)
  | '\n' :: rest => some rest
  | '\r' :: '\n' :: rest => some rest
  | _ => none

/-- What stands behind the end of a line, which may be the end of the text. -/
def lineEnd? : List Char → Option (List Char)
  | [] => some []
  | text => newline? text

/-- What stands behind a comment, if a text begins with one. -/
def skipComment : List Char → List Char
  | '#' :: rest => rest.dropWhile isText
  | text => text

/-- What stands behind the rest of a line in which nothing is stated. -/
def lineRest? (text : List Char) : Option (List Char) :=
  lineEnd? (skipComment (skipBlanks text))

/-- What is left when characters are dropped is no longer than the text. -/
theorem length_dropWhile_le (p : Char → Bool) (text : List Char) :
    (text.dropWhile p).length ≤ text.length :=
  (List.dropWhile_sublist p).length_le

/-- What stands behind blanks, comments and ends of lines. -/
def skipGap (text : List Char) : List Char :=
  match text with
  | [] => []
  | c :: rest =>
    if isBlank c || c == '\n' then skipGap rest
    else if c == '\r' && rest.head? == some '\n' then skipGap rest
    else if c == '#' then skipGap (rest.dropWhile isText)
    else text
termination_by text.length
decreasing_by
  · simp
  · simp
  · exact Nat.lt_succ_of_le (length_dropWhile_le ..)

/-- What stands behind blanks and ends of lines. -/
def skipBlankLines : List Char → List Char
  | '\r' :: '\n' :: rest => skipBlankLines rest
  | c :: rest => if isBlank c || c == '\n' then skipBlankLines rest else c :: rest
  | [] => []

/-- What is left behind blank lines is no longer than the text. -/
theorem length_skipBlankLines_le (text : List Char) :
    (skipBlankLines text).length ≤ text.length := by
  fun_induction skipBlankLines text with
  | case1 rest ih => simp only [List.length_cons]; omega
  | case2 c rest _ _ ih => simp only [List.length_cons]; omega
  | case3 => simp
  | case4 => simp

/-! ## Escapes -/

/-- The character of a number, if there is one. -/
def scalar? (n : Nat) : Option Char :=
  if n.isValidChar then some (Char.ofNat n) else none

/-- The character that `count` hexadecimal digits number, and what stands behind them. -/
def numbered? (count : Nat) (text : List Char) : Option (Char × List Char) :=
  if text.length < count then none
  else
    match (natOfHex? (text.take count)).bind scalar? with
    | some c => some (c, text.drop count)
    | none => none

/-- The character of an escape behind its backslash, and what stands behind it. -/
def escape? : List Char → Option (Char × List Char)
  | [] => none
  | c :: rest =>
    match c with
    | 'b' => some ('\x08', rest)
    | 't' => some ('\t', rest)
    | 'n' => some ('\n', rest)
    | 'f' => some ('\x0C', rest)
    | 'r' => some ('\r', rest)
    | '\x22' => some ('\x22', rest)
    | '\\' => some ('\\', rest)
    | 'u' => numbered? 4 rest
    | 'U' => numbered? 8 rest
    | _ => none

/-- What is left behind a numbered character is no longer than the text. -/
theorem length_le_of_numbered? {count : Nat} {text rest : List Char} {c : Char}
    (h : numbered? count text = some (c, rest)) : rest.length ≤ text.length := by
  unfold numbered? at h
  split at h
  · simp at h
  · split at h
    · simp only [Option.some.injEq, Prod.mk.injEq] at h
      rw [← h.2, List.length_drop]
      omega
    · simp at h

/-- An escape takes at least one character. -/
theorem length_lt_of_escape? {text rest : List Char} {c : Char}
    (h : escape? text = some (c, rest)) : rest.length < text.length := by
  cases text with
  | nil => simp [escape?] at h
  | cons x xs =>
    rw [List.length_cons, Nat.lt_succ_iff]
    simp only [escape?] at h
    split at h
    case h_8 => exact length_le_of_numbered? h
    case h_9 => exact length_le_of_numbered? h
    all_goals simp_all

/-- What stands behind an end of line that is escaped and all blank lines behind it. -/
def continuation? (text : List Char) : Option (List Char) :=
  (newline? (skipBlanks text)).map skipBlankLines

/-- The end of a line takes at least one character. -/
theorem length_lt_of_newline? {text rest : List Char} (h : newline? text = some rest) :
    rest.length < text.length := by
  unfold newline? at h
  split at h
  · simp_all
  · simp only [Option.some.injEq] at h
    simp only [← h, List.length_cons]
    omega
  · simp at h

/-- A continued line takes at least one character. -/
theorem length_lt_of_continuation? {text rest : List Char} (h : continuation? text = some rest) :
    rest.length < text.length := by
  obtain ⟨line, hline, rfl⟩ := Option.map_eq_some_iff.1 h
  have h₁ := length_skipBlankLines_le line
  have h₂ := length_lt_of_newline? hline
  have h₃ := length_dropWhile_le isBlank text
  unfold skipBlanks at h₂
  omega

/-! ## Strings -/

/-- A string of one line behind its opening quote, and what stands behind its closing quote. -/
def lineString (quote : Char) (escapes : Bool) (text : List Char) :
    Option (List Char × List Char) :=
  match text with
  | [] => none
  | c :: rest =>
    if c == quote then some ([], rest)
    else if c == '\\' && escapes then
      match _h : escape? rest with
      | some (x, rest') => (lineString quote escapes rest').map fun (s, r) => (x :: s, r)
      | none => none
    else if isText c then (lineString quote escapes rest).map fun (s, r) => (c :: s, r)
    else none
termination_by text.length
decreasing_by
  · have := length_lt_of_escape? _h; simp only [List.length_cons]; omega
  · simp

/-- The quotes that belong to a string which three quotes close here, and what stands behind these;
up to two may belong to it. -/
def closing? (quote : Char) (text : List Char) : Option (List Char × List Char) :=
  let quotes := (text.take 5).takeWhile (· == quote)
  if quotes.length < 3 then none else some (quotes.drop 3, text.drop quotes.length)

/-- A string of several lines behind its opening quotes, and what stands behind its closing
quotes. -/
def linesString (quote : Char) (escapes : Bool) (text : List Char) :
    Option (List Char × List Char) :=
  match text with
  | [] => none
  | c :: rest =>
    if c == quote then
      match closing? quote text with
      | some closed => some closed
      | none => (linesString quote escapes rest).map fun (s, r) => (c :: s, r)
    else if c == '\\' && escapes then
      match _h : continuation? rest, _h' : escape? rest with
      | some rest', _ => linesString quote escapes rest'
      | none, some (x, rest') =>
        (linesString quote escapes rest').map fun (s, r) => (x :: s, r)
      | none, none => none
    else if c == '\r' then
      if rest.head? == some '\n' then linesString quote escapes rest else none
    else if c == '\n' || isText c then
      (linesString quote escapes rest).map fun (s, r) => (c :: s, r)
    else none
termination_by text.length
decreasing_by
  · simp
  · have := length_lt_of_continuation? _h; simp only [List.length_cons]; omega
  · have := length_lt_of_escape? _h'; simp only [List.length_cons]; omega
  · simp
  · simp

/-- What stands behind an end of line right behind the opening quotes. -/
def skipNewline (text : List Char) : List Char :=
  (newline? text).getD text

/-- The string of one line that a text begins with. -/
def lineString? : List Char → Option (List Char × List Char)
  | '\x22' :: rest => lineString '\x22' true rest
  | '\x27' :: rest => lineString '\x27' false rest
  | _ => none

/-- The string that a text begins with. -/
def string? : List Char → Option (List Char × List Char)
  | '\x22' :: '\x22' :: '\x22' :: rest => linesString '\x22' true (skipNewline rest)
  | '\x27' :: '\x27' :: '\x27' :: rest => linesString '\x27' false (skipNewline rest)
  | text => lineString? text

end MetadataGateway.Toml
