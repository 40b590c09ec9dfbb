import MetadataGateway.Proofs.Timestamp.Order

/-!
# The name of UTC behind a text

The name of UTC may stand behind a text, with any white space before it, and it is taken off with
that white space. It makes no difference to what is read (`read?_append_zoneName`), unless the text
has the name at its end already: it is taken off once only, and then nothing is read
(`read?_append_zoneName_of_named`). The reason is in the patterns. What an item takes from a text
are digits, white space, signs, the marks between numbers and the letters `T` and `Z`
(`taken_of_read?`), and since a pattern reads a text to its end, every character of a text that is
read is one of these (`written_of_read?`).
-/

namespace MetadataGateway.Timestamp

open Text Number

variable {items : List Item} {d d' : Draft} {text text' rest behind : List Char} {c : Char}

/-! ## Characters -/

/-- A character that may stand in the text of a timestamp. -/
def isWritten (c : Char) : Bool :=
  c.isDigit || isBlank c || "+-\u2212:.TtZz".toList.contains c

/-- A text of characters that may stand in the text of a timestamp. -/
def Written (text : List Char) : Prop :=
  ∀ c ∈ text, isWritten c = true

/-- A digit may stand in the text of a timestamp. -/
lemma isWritten_of_isDigit (digit : c.isDigit = true) : isWritten c = true := by
  rw [isWritten, digit, Bool.true_or, Bool.true_or]

/-- White space may stand in the text of a timestamp. -/
lemma isWritten_of_isBlank (blank : isBlank c = true) : isWritten c = true := by
  rw [isWritten, blank, Bool.or_true, Bool.true_or]

/-- The characters in front of the rest of a text may stand in the text of a timestamp. -/
def Taken (text rest : List Char) : Prop :=
  ∃ front, text = front ++ rest ∧ Written front

namespace Taken

/-- Nothing may be taken. -/
lemma refl (text : List Char) : Taken text text :=
  ⟨[], rfl, nofun⟩

/-- What is taken in two steps is taken. -/
lemma trans (first : Taken text rest) (second : Taken rest behind) : Taken text behind := by
  obtain ⟨front, rfl, written⟩ := first
  obtain ⟨middle, rfl, written'⟩ := second
  refine ⟨front ++ middle, (List.append_assoc _ _ _).symm, ?_⟩
  exact List.forall_mem_append.2 ⟨written, written'⟩

/-- One character is taken if it may stand there. -/
lemma single (written : isWritten c = true) (rest : List Char) : Taken (c :: rest) rest :=
  ⟨[c], rfl, List.forall_mem_singleton.2 written⟩

/-- Characters that may stand there are taken as far as they go. -/
lemma dropWhile {p : Char → Bool} (written : ∀ c, p c = true → isWritten c = true)
    (text : List Char) : Taken text (text.dropWhile p) := by
  refine ⟨text.takeWhile p, List.takeWhile_append_dropWhile.symm, fun c mem => ?_⟩
  exact written c (List.mem_takeWhile_imp mem)

/-- White space in front is taken. -/
lemma trimStart (text : List Char) : Taken text (trimStart text) :=
  dropWhile (fun _ => isWritten_of_isBlank) text

end Taken

/-! ## Items -/

/-- A number takes digits. -/
lemma taken_of_takeNumber? {least most n : Nat}
    (read : takeNumber? least most text = some (n, rest)) : Taken text rest := by
  rw [takeNumber?] at read
  split_ifs at read
  cases read
  have front : (text.take most).takeWhile Char.isDigit <+: text :=
    (List.takeWhile_prefix _).trans (List.take_prefix most text)
  refine ⟨_, (List.prefix_iff_eq_append.1 front).symm, fun c mem => ?_⟩
  exact isWritten_of_isDigit (List.mem_takeWhile_imp mem)

/-- A loose number takes a sign, digits and white space. -/
lemma taken_of_takeLoose? {f : Field} {n : Int} (read : takeLoose? f text = some (n, rest)) :
    Taken text rest := by
  have blanks := Taken.trimStart text
  unfold takeLoose? at read
  split at read
  case h_1 signed | h_2 signed =>
    obtain ⟨⟨m, r⟩, number, same⟩ := Option.map_eq_some_iff.1 read
    cases same
    rw [signed] at blanks
    exact blanks.trans ((Taken.single (by decide) _).trans (taken_of_takeNumber? number))
  case h_3 =>
    obtain ⟨⟨m, r⟩, number, same⟩ := Option.map_eq_some_iff.1 read
    cases same
    exact blanks.trans (taken_of_takeNumber? number)

/-- A sign takes one character. -/
lemma taken_of_takeSign? {sign : Int} (read : takeSign? text = some (sign, rest)) :
    Taken text rest := by
  obtain ⟨c, rfl, which⟩ := takeSign?_begins read
  refine .single ?_ rest
  rcases which with rfl | rfl | rfl <;> decide

/-- Minutes take two digits. -/
lemma taken_of_takeMinutes? {n : Nat} (read : takeMinutes? text = some (n, rest)) :
    Taken text rest := by
  obtain ⟨⟨m, r⟩, two, few⟩ := Option.bind_eq_some_iff.1 read
  dsimp only at few
  split_ifs at few
  cases few
  exact taken_of_takeNumber? two

/-- An exact distance takes a `Z`, or a sign, digits and a colon. -/
lemma taken_of_takeExactZone? {n : Int} (read : takeExactZone? text = some (n, rest)) :
    Taken text rest := by
  unfold takeExactZone? at read
  split at read
  case h_1 | h_2 =>
    cases read
    exact .single (by decide) _
  case h_3 =>
    simp only [Option.bind_eq_bind, Option.bind_eq_some_iff] at read
    obtain ⟨⟨sign, r⟩, signed, ⟨hours, r⟩, hour, read⟩ := read
    dsimp only at hour read
    split at read
    case h_1 =>
      obtain ⟨⟨minutes, r⟩, minute, same⟩ := Option.bind_eq_some_iff.1 read
      cases same
      have front := (taken_of_takeSign? signed).trans (taken_of_takeNumber? hour)
      exact front.trans ((Taken.single (by decide) _).trans (taken_of_takeMinutes? minute))
    case h_2 => cases read

/-- A loose distance takes a `Z`, or a sign, digits, colons and white space. -/
lemma taken_of_takeLooseZone? {n : Int} (read : takeLooseZone? text = some (n, rest)) :
    Taken text rest := by
  have blanks := Taken.trimStart text
  unfold takeLooseZone? at read
  split at read
  case h_1 zulu | h_2 zulu =>
    cases read
    rw [zulu] at blanks
    exact blanks.trans (.single (by decide) _)
  case h_3 =>
    simp only [Option.bind_eq_bind, Option.bind_eq_some_iff] at read
    obtain ⟨⟨sign, r⟩, signed, ⟨hours, r⟩, hour, read⟩ := read
    have front := (taken_of_takeSign? signed).trans (taken_of_takeNumber? hour)
    have skipped : ∀ c, (c == ':' || isBlank c) = true → isWritten c = true := by
      intro c which
      rcases Bool.or_eq_true_iff.1 which with colon | blank
      · rw [beq_iff_eq.1 colon]
        decide
      · exact isWritten_of_isBlank blank
    have colons := Taken.dropWhile skipped r
    split at read
    case h_1 nothing =>
      cases read
      rw [nothing] at colons
      exact blanks.trans (front.trans colons)
    case h_2 =>
      obtain ⟨⟨minutes, r⟩, minute, same⟩ := Option.bind_eq_some_iff.1 read
      cases same
      exact blanks.trans (front.trans (colons.trans (taken_of_takeMinutes? minute)))

/-- The mark that an item reads, if it reads one, may stand in the text of a timestamp. -/
def Item.isPlain : Item → Bool
  | .mark c => isWritten c
  | _ => true

/-- No item takes other characters, but for a mark of its own. -/
lemma taken_of_read? {item : Item} (plain : item.isPlain = true)
    (read : item.read? d text = some (d', rest)) : Taken text rest := by
  cases item with
  | exact f =>
    obtain ⟨⟨n, r⟩, number, same⟩ := Option.map_eq_some_iff.1 read
    cases same
    exact taken_of_takeNumber? number
  | loose f =>
    obtain ⟨⟨n, r⟩, number, same⟩ := Option.map_eq_some_iff.1 read
    cases same
    exact taken_of_takeLoose? number
  | mark c =>
    rw [Item.read?] at read
    split_ifs at read with here
    cases read
    cases text with
    | nil => cases here
    | cons b text =>
      cases here
      exact .single plain text
  | timeMark =>
    obtain ⟨rfl, c, rfl, which⟩ := read?_timeMark_eq_some read
    refine .single ?_ rest
    rcases which with rfl | rfl | rfl <;> decide
  | blanks =>
    cases read
    exact .trimStart text
  | fraction =>
    unfold Item.read? at read
    dsimp only at read
    split at read
    · split_ifs at read
      cases read
      exact (Taken.single (by decide) _).trans (.dropWhile (fun _ => isWritten_of_isDigit) _)
    · cases read
      exact .refl text
  | exactZone =>
    obtain ⟨⟨n, r⟩, zone, same⟩ := Option.map_eq_some_iff.1 read
    cases same
    exact taken_of_takeExactZone? zone
  | looseZone =>
    obtain ⟨⟨n, r⟩, zone, same⟩ := Option.map_eq_some_iff.1 read
    cases same
    exact taken_of_takeLooseZone? zone

/-! ## Patterns -/

/-- Items read a text to its end, so it has only characters that they take. -/
lemma written_of_readItems? (plain : ∀ item ∈ items, item.isPlain = true)
    (read : readItems? items d text = some d') : Written text := by
  induction items generalizing d text with
  | nil =>
    -- Only a pattern that goes on to the end of the text reads it.
    rw [readItems?] at read
    split_ifs at read with nothing
    rw [nothing]
    exact List.forall_mem_nil _
  | cons item items ih =>
    obtain ⟨own, others_plain⟩ := List.forall_mem_cons.1 plain
    obtain ⟨d₁, rest, first, others⟩ := readItems?_cons_eq_some.1 read
    obtain ⟨front, rfl, written⟩ := taken_of_read? own first
    exact List.forall_mem_append.2 ⟨written, ih others_plain others⟩

/-- The patterns have no marks but those that may stand there. -/
lemma isPlain_of_mem (mem : items ∈ patterns) : ∀ item ∈ items, item.isPlain = true := by
  have each : (patterns.all fun items => items.all Item.isPlain) = true := by decide
  exact List.all_eq_true.1 (List.all_eq_true.1 each items mem)

/-- Without the name of UTC, a text that is read as a timestamp is of digits, white space, signs,
the marks between numbers and the letters of times and of UTC. -/
theorem written_of_read? {t : Timestamp} (read : read? text = some t) :
    Written (withoutZoneName text) := by
  obtain ⟨pattern, mem, read⟩ := List.exists_of_findSome?_eq_some read
  obtain ⟨d, items, -⟩ := Option.bind_eq_some_iff.1 read
  exact written_of_readItems? (isPlain_of_mem mem) items

/-! ## The name of UTC -/

/-- White space on either side makes no difference to what is left without the name of UTC. -/
lemma withoutZoneName_congr (same : trim text = trim text') :
    withoutZoneName text = withoutZoneName text' := by
  rw [withoutZoneName, withoutZoneName, same]

/-- White space around a text makes no difference to what is read. -/
lemma read?_congr (same : trim text = trim text') : read? text = read? text' := by
  rw [read?, read?, withoutZoneName_congr same]

/-- Where the name of UTC does not stand at the end a text is only trimmed. -/
lemma withoutZoneName_of_not_named (unnamed : ¬ zoneName <:+ trim text) :
    withoutZoneName text = trim text := by
  have differs : ¬ zoneName.isSuffixOf (trim text) = true :=
    fun ends => unnamed (List.isSuffixOf_iff_suffix.1 ends)
  rw [withoutZoneName]
  rw [show " UTC".toList = zoneName from rfl, dropEnding?, if_neg differs]

/-- The name is taken off with the white space before it. -/
lemma withoutZoneName_append_zoneName (some_solid : ¬ Blank text) :
    withoutZoneName (text ++ zoneName) = trim text := by
  have whole : trim (text ++ zoneName) = trimStart text ++ zoneName := by
    rw [trim, trimStart_append_of_not_blank some_solid,
      show zoneName = [' ', 'U', 'T'] ++ ['C'] from rfl, ← List.append_assoc,
      trimEnd_of_not_blank (by decide)]
  rw [withoutZoneName, whole]
  rw [show " UTC".toList = zoneName from rfl, dropEnding?_append]
  rfl

/-- The name of UTC behind a text that does not end in it makes no difference. -/
theorem read?_append_zoneName (unnamed : ¬ zoneName <:+ trim text) :
    read? (text ++ zoneName) = read? text := by
  by_cases blank : Blank text
  · -- Behind white space alone the name is no end of the text but all of it.
    have name : trim (text ++ zoneName) = trim "UTC".toList := by
      have padded : Blank (text ++ [' ']) :=
        List.forall_mem_append.2 ⟨blank, List.forall_mem_singleton.2 rfl⟩
      have whole : text ++ zoneName = (text ++ [' ']) ++ "UTC".toList :=
        (List.append_assoc text [' '] "UTC".toList).symm
      rw [whole, trim, trimStart_append padded, trim]
    have nothing : trim text = trim [] := trim_of_blank blank
    rw [read?_congr name, read?_congr nothing]
    decide
  · rw [read?, read?, withoutZoneName_append_zoneName blank, withoutZoneName_of_not_named unnamed]

/-- Of two names of UTC behind a text, one is left, and no pattern reads it. -/
theorem read?_append_zoneName_of_named (named : zoneName <:+ trim text) :
    read? (text ++ zoneName) = none := by
  have some_solid : ¬ Blank text := by
    intro blank
    rw [trim_of_blank blank] at named
    exact absurd (List.suffix_nil.1 named) (by decide)
  cases read : read? (text ++ zoneName) with
  | none => rfl
  | some t =>
    -- What is left has the other name at its end, whose letters no timestamp has.
    have written := written_of_read? read
    rw [withoutZoneName_append_zoneName some_solid] at written
    exact absurd (written 'U' (named.subset (by decide))) (by decide)

end MetadataGateway.Timestamp
