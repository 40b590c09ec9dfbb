import MetadataGateway.Proofs.Calendar
import MetadataGateway.Proofs.Text.Blank
import MetadataGateway.Timestamp.Reader

/-!
# Spellings of instants

A spelling is a date, perhaps with a time of day and a distance from UTC, all in their usual digits.
It says which instant it means, by counting days and seconds, and whether there is such a date, time
of day and distance. A spelling may name UTC at its end, and the name is the first thing that the
reader takes off (`Spelling.withoutZoneName_text`).
-/

namespace MetadataGateway.Timestamp

open Calendar Text Number

/-- So many decimal digits. -/
structure Digits (n : Nat) where
  chars : List Char
  length_eq : chars.length = n
  all_digits : ∀ c ∈ chars, c.isDigit = true

/-- The number that the digits spell. -/
def Digits.value {n : Nat} (ds : Digits n) : Nat :=
  natOfDigits ds.chars

/-- The digits of a fraction, at least one. -/
structure Fraction where
  chars : List Char
  some_digit : chars ≠ []
  all_digits : ∀ c ∈ chars, c.isDigit = true

/-- A year, a month and a day. -/
structure Day where
  year : Digits 4
  month : Digits 2
  day : Digits 2

/-- What stands between a date and a time of day. -/
inductive Separator where
  | letter
  | space

/-- A time of day. -/
inductive Clock where
  | minutes (hour minute : Digits 2)
  | seconds (hour minute second : Digits 2) (fraction : Option Fraction)

/-- The sign of a distance from UTC. -/
inductive Sign where
  | ahead
  | behind

/-- A distance from UTC. -/
inductive Zone where
  | absent
  | zulu
  | hours (sign : Sign) (hour : Digits 2)
  | minutes (sign : Sign) (hour minute : Digits 2)
  /-- The name of UTC. -/
  | named

/-- A date, or a date and a time of day. -/
inductive Spelling where
  | date (day : Day) (named : Bool)
  | time (day : Day) (separator : Separator) (clock : Clock) (zone : Zone)

/-! ## Texts -/

/-- The text of a date. -/
def Day.text (d : Day) : List Char :=
  d.year.chars ++ '-' :: d.month.chars ++ '-' :: d.day.chars

/-- The character between a date and a time of day. -/
def Separator.char : Separator → Char
  | letter => 'T'
  | space => ' '

/-- The text of a fraction with its point. -/
def Fraction.text : Option Fraction → List Char
  | none => []
  | some f => '.' :: f.chars

/-- The text of a time of day. -/
def Clock.text : Clock → List Char
  | minutes hour minute => hour.chars ++ ':' :: minute.chars
  | seconds hour minute second fraction =>
    hour.chars ++ ':' :: minute.chars ++ ':' :: second.chars ++ Fraction.text fraction

/-- The character of a sign. -/
def Sign.char : Sign → Char
  | ahead => '+'
  | behind => '-'

/-- The name of UTC, as it stands behind a text. -/
def zoneName : List Char := " UTC".toList

/-- The text of a distance from UTC. -/
def Zone.text : Zone → List Char
  | absent => []
  | zulu => ['Z']
  | hours sign hour => sign.char :: hour.chars
  | minutes sign hour minute => sign.char :: hour.chars ++ ':' :: minute.chars
  | named => zoneName

/-- The text of a spelling. -/
def Spelling.text : Spelling → List Char
  | date day named => day.text ++ if named then zoneName else []
  | time day separator clock zone => day.text ++ separator.char :: clock.text ++ zone.text

/-! ## Meanings -/

/-- The date of its numbers, whether there is such a date or not. -/
def Day.toDate (d : Day) : Date :=
  ⟨d.year.value, d.month.value, d.day.value⟩

/-- The nanoseconds of a fraction: its first nine digits, padded with zeros on the right. -/
def Fraction.nanos : Option Fraction → Nat
  | none => 0
  | some f => natOfDigits ((f.chars ++ List.replicate 9 '0').take 9)

/-- The number of hours. -/
def Clock.hour : Clock → Nat
  | minutes hour _ => hour.value
  | seconds hour _ _ _ => hour.value

/-- The number of minutes. -/
def Clock.minute : Clock → Nat
  | minutes _ minute => minute.value
  | seconds _ minute _ _ => minute.value

/-- The number of seconds. -/
def Clock.second : Clock → Nat
  | minutes _ _ => 0
  | seconds _ _ second _ => second.value

/-- The nanoseconds of the fraction. -/
def Clock.nanos : Clock → Nat
  | minutes _ _ => 0
  | seconds _ _ _ fraction => Fraction.nanos fraction

/-- A number of seconds ahead of UTC or behind it. -/
def Sign.apply (seconds : Nat) : Sign → Int
  | ahead => seconds
  | behind => -seconds

/-- The seconds by which the local time is ahead of UTC. -/
def Zone.offset : Zone → Int
  | hours sign hour => sign.apply (3600 * hour.value)
  | minutes sign hour minute => sign.apply (3600 * hour.value + 60 * minute.value)
  | _ => 0

/-- There is such a distance from UTC. -/
def Zone.Valid : Zone → Prop
  | hours _ hour => hour.value ≤ 23
  | minutes _ hour minute => hour.value ≤ 23 ∧ minute.value ≤ 59
  | _ => True

/-- There is such a date. -/
def Day.Valid (d : Day) : Prop :=
  1 ≤ d.month.value ∧ d.month.value ≤ 12 ∧
    1 ≤ d.day.value ∧ d.day.value ≤ daysInMonth d.year.value d.month.value

/-- There is such a time of day. The second may be a leap second, whatever the minute. -/
def Clock.Valid (c : Clock) : Prop :=
  c.hour ≤ 23 ∧ c.minute ≤ 59 ∧ c.second ≤ 60

/-- There is such a date, time of day and distance from UTC. -/
def Spelling.Valid : Spelling → Prop
  | date day _ => day.Valid
  | time day _ clock zone => day.Valid ∧ clock.Valid ∧ zone.Valid

/-- The instant that a spelling means. -/
def Spelling.instant : Spelling → Timestamp
  | date day _ => { seconds := 86400 * day.toDate.daysFromEpoch, nanos := 0 }
  | time day _ clock zone =>
    { seconds := 86400 * day.toDate.daysFromEpoch + 3600 * clock.hour + 60 * clock.minute
        + min clock.second 59 - zone.offset
      nanos := clock.nanos + if clock.second = 60 then 1000000000 else 0 }

instance : (z : Zone) → Decidable z.Valid
  | .absent => inferInstanceAs (Decidable True)
  | .zulu => inferInstanceAs (Decidable True)
  | .hours _ hour => inferInstanceAs (Decidable (hour.value ≤ 23))
  | .minutes _ hour minute => inferInstanceAs (Decidable (hour.value ≤ 23 ∧ minute.value ≤ 59))
  | .named => inferInstanceAs (Decidable True)

instance (d : Day) : Decidable d.Valid :=
  inferInstanceAs (Decidable (_ ∧ _ ∧ _ ∧ _))

instance (c : Clock) : Decidable c.Valid :=
  inferInstanceAs (Decidable (_ ∧ _ ∧ _))

instance : (s : Spelling) → Decidable s.Valid
  | .date day _ => inferInstanceAs (Decidable day.Valid)
  | .time day _ clock zone => inferInstanceAs (Decidable (day.Valid ∧ clock.Valid ∧ zone.Valid))

/-! ## The name of UTC -/

/-- The distance from UTC without its name. -/
def Zone.unnamed : Zone → Zone
  | named => absent
  | zone => zone

/-- The spelling without the name of UTC. -/
def Spelling.unnamed : Spelling → Spelling
  | date day _ => date day false
  | time day separator clock zone => time day separator clock zone.unnamed

/-- A text ends as spellings without the name of UTC do: in a digit or in a `Z`. -/
def Ends (text : List Char) : Prop :=
  ∃ front c, text = front ++ [c] ∧ (c.isDigit = true ∨ c = 'Z')

/-- A text ends as its second part does. -/
lemma Ends.append {text : List Char} (ends : Ends text) (before : List Char) :
    Ends (before ++ text) := by
  obtain ⟨front, c, rfl, last⟩ := ends
  exact ⟨before ++ front, c, (List.append_assoc _ _ _).symm, last⟩

/-- A text ends as it does without its first character. -/
lemma Ends.cons {text : List Char} (ends : Ends text) (c : Char) : Ends (c :: text) :=
  ends.append [c]

/-- Digits end in a digit. -/
lemma ends_of_digits {chars : List Char} (some_digit : chars ≠ [])
    (all_digits : ∀ c ∈ chars, c.isDigit = true) : Ends chars := by
  refine ⟨chars.dropLast, chars.getLast some_digit, ?_, .inl ?_⟩
  · exact (List.dropLast_concat_getLast some_digit).symm
  · exact all_digits _ (List.getLast_mem some_digit)

/-- At least one digit is some text. -/
lemma Digits.ne_nil {n : Nat} (ds : Digits (n + 1)) : ds.chars ≠ [] :=
  List.ne_nil_of_length_eq_add_one ds.length_eq

/-- Digits begin with a digit, if there are any. -/
lemma Digits.begins {n : Nat} (ds : Digits n) (pos : 0 < n) :
    ∃ c rest, ds.chars = c :: rest ∧ c.isDigit = true := by
  obtain ⟨c, rest, here⟩ := List.exists_cons_of_length_pos (ds.length_eq ▸ pos)
  refine ⟨c, rest, here, ds.all_digits c ?_⟩
  rw [here]
  exact List.mem_cons_self

/-- At least one digit ends in a digit. -/
lemma Digits.ends {n : Nat} (ds : Digits (n + 1)) : Ends ds.chars :=
  ends_of_digits ds.ne_nil ds.all_digits

/-- A date ends in a digit. -/
lemma Day.ends (d : Day) : Ends d.text :=
  (d.day.ends.cons '-').append _

/-- A time of day ends in a digit. -/
lemma Clock.ends (c : Clock) : Ends c.text := by
  cases c with
  | minutes hour minute => exact (minute.ends.cons ':').append _
  | seconds hour minute second fraction =>
    cases fraction with
    | none =>
      have ends := (second.ends.cons ':').append (hour.chars ++ ':' :: minute.chars)
      simpa only [text, Fraction.text, List.append_nil] using ends
    | some f => exact ((ends_of_digits f.some_digit f.all_digits).cons '.').append _

/-- A text ends as spellings do with a distance behind it, or with none. -/
lemma Zone.ends {before : List Char} (ends : Ends before) (z : Zone) :
    Ends (before ++ z.unnamed.text) := by
  cases z with
  | absent => simpa only [unnamed, text, List.append_nil] using ends
  | zulu => exact ⟨before, 'Z', rfl, .inr rfl⟩
  | hours sign hour => exact (hour.ends.cons sign.char).append before
  | minutes sign hour minute =>
    exact ((minute.ends.cons ':').append (sign.char :: hour.chars)).append before
  | named => simpa only [unnamed, text, List.append_nil] using ends

/-- A spelling without the name of UTC ends in a digit or in a `Z`. -/
lemma Spelling.ends (s : Spelling) : Ends s.unnamed.text := by
  cases s with
  | date day named =>
    have ends := day.ends
    simpa only [unnamed, text, Bool.false_eq_true, if_false, List.append_nil] using ends
  | time day separator clock zone =>
    exact zone.ends ((clock.ends.cons separator.char).append day.text)

/-- Neither a digit nor a `Z` is white space. -/
lemma Ends.last_not_blank {c : Char} (last : c.isDigit = true ∨ c = 'Z') : isBlank c = false := by
  rcases last with digit | rfl
  · exact isBlank_of_isDigit digit
  · decide

/-- Nothing is trimmed behind a spelling. -/
lemma Ends.trimEnd {text : List Char} (ends : Ends text) : trimEnd text = text := by
  obtain ⟨front, c, rfl, last⟩ := ends
  exact trimEnd_of_not_blank (last_not_blank last)

/-- A text that ends in a digit or in a `Z` does not end in the name of UTC. -/
lemma Ends.not_named {text : List Char} (ends : Ends text) : dropEnding? zoneName text = none := by
  obtain ⟨front, c, rfl, last⟩ := ends
  have differs : ¬ zoneName.isSuffixOf (front ++ [c]) = true := by
    rw [List.isSuffixOf_iff_suffix]
    rintro ⟨before, same⟩
    rw [show zoneName = [' ', 'U', 'T'] ++ ['C'] from rfl, ← List.append_assoc] at same
    obtain ⟨-, same⟩ := List.append_inj' same rfl
    cases same
    rcases last with digit | letter
    · exact absurd digit (by decide)
    · exact absurd letter (by decide)
  rw [dropEnding?, if_neg differs]

/-- Nothing is trimmed of such a text, and the last character is not that of the name. -/
lemma Ends.withoutZoneName {text : List Char} (ends : Ends text) (start : trimStart text = text) :
    withoutZoneName text = text := by
  have whole : trim text = text := by rw [trim, start, ends.trimEnd]
  rw [Timestamp.withoutZoneName, whole]
  rw [show " UTC".toList = zoneName from rfl, ends.not_named]

/-- What stands behind a text is dropped from it. -/
lemma dropEnding?_append (text ending : List Char) :
    dropEnding? ending (text ++ ending) = some text := by
  have ends : ending.isSuffixOf (text ++ ending) = true :=
    List.isSuffixOf_iff_suffix.2 (List.suffix_append text ending)
  rw [dropEnding?, if_pos ends, List.length_append, Nat.add_sub_cancel, List.take_left]

/-- Nothing is trimmed in front of a spelling. -/
lemma Spelling.trimStart_text (s : Spelling) (behind : List Char) :
    trimStart (s.text ++ behind) = s.text ++ behind := by
  cases s with
  | date day named =>
    obtain ⟨c, rest, here, digit⟩ := day.year.begins (by decide)
    simp only [text, Day.text, here, List.cons_append]
    exact trimStart_of_not_blank (isBlank_of_isDigit digit)
  | time day separator clock zone =>
    obtain ⟨c, rest, here, digit⟩ := day.year.begins (by decide)
    simp only [text, Day.text, here, List.cons_append]
    exact trimStart_of_not_blank (isBlank_of_isDigit digit)

/-- The text is that of the spelling without the name of UTC, with the name behind it or nothing. -/
lemma Spelling.text_eq (s : Spelling) :
    s.text = s.unnamed.text ∨ s.text = s.unnamed.text ++ zoneName := by
  cases s with
  | date day named =>
    cases named with
    | false => exact .inl rfl
    | true =>
      right
      simp only [text, unnamed, Bool.false_eq_true, if_false, if_true, List.append_nil]
  | time day separator clock zone =>
    cases zone with
    | named =>
      right
      simp only [text, unnamed, Zone.text, Zone.unnamed, List.append_nil]
    | _ => exact .inl rfl

/-- The reader takes the name of UTC off and nothing else. -/
theorem Spelling.withoutZoneName_text (s : Spelling) :
    withoutZoneName s.text = s.unnamed.text := by
  have start := s.unnamed.trimStart_text
  rcases s.text_eq with same | same
  · rw [same]
    refine s.ends.withoutZoneName ?_
    rw [← List.append_nil s.unnamed.text, start]
  · have whole : trim s.text = s.unnamed.text ++ zoneName := by
      rw [same, trim, start, show zoneName = [' ', 'U', 'T'] ++ ['C'] from rfl,
        ← List.append_assoc, trimEnd_of_not_blank (by decide)]
    rw [withoutZoneName, whole]
    rw [show " UTC".toList = zoneName from rfl, dropEnding?_append]
    exact s.ends.trimEnd

end MetadataGateway.Timestamp
