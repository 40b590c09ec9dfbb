import Mathlib.Data.List.TakeWhile
import MetadataGateway.Proofs.Timestamp.Spelling

/-!
# Reading a spelling by the patterns

Numbers in their usual digits are read alike by strict and by loose items, so a pattern reads as
much of a spelling as has its parts, and what decides is whether the parts are the same. Whatever
the pattern, it reads what the spelling says or nothing (`Spelling.yields`), and unless the minutes
of a distance from UTC are too many some pattern reads it (`Spelling.exists_pattern`).
-/

namespace MetadataGateway.Timestamp

open Calendar Text Number

/-! ## Numbers -/

/-- Digits are taken as the number that they spell. -/
lemma takeNumber?_digits {least n : Nat} (le : least ≤ n) (ds : Digits n) (rest : List Char) :
    takeNumber? least n (ds.chars ++ rest) = some (ds.value, rest) := by
  have front : ((ds.chars ++ rest).take n).takeWhile Char.isDigit = ds.chars := by
    rw [List.take_left' ds.length_eq, List.takeWhile_eq_self_iff]
    exact ds.all_digits
  rw [takeNumber?, front, ds.length_eq, if_pos le, List.drop_left' ds.length_eq]
  rfl

/-- A loose number that begins with a digit has no sign. -/
lemma takeLoose?_of_isDigit {c : Char} (digit : c.isDigit = true) (f : Field) (text : List Char) :
    takeLoose? f (c :: text) =
      (takeNumber? 1 f.width (c :: text)).map fun (n, r) => ((n : Int), r) := by
  unfold takeLoose?
  rw [trimStart_of_not_blank (isBlank_of_isDigit digit)]
  split
  · rename_i signed
    cases signed
    exact absurd digit (by decide)
  · rename_i signed
    cases signed
    exact absurd digit (by decide)
  · rfl

/-- Every field has a digit at least. -/
lemma Field.one_le_width (f : Field) : 1 ≤ f.width := by
  cases f <;> decide

/-- Items that read a number in its usual digits. -/
def Reads (number : Field → Item) : Prop :=
  ∀ (f : Field) (d : Draft) (ds : Digits f.width) (rest : List Char),
    (number f).read? d (ds.chars ++ rest) = some (d.note f ds.value, rest)

/-- Exact numbers read the digits of their fields. -/
lemma reads_exact : Reads .exact := by
  intro f d ds rest
  rw [Item.read?, takeNumber?_digits (Nat.le_refl _)]
  rfl

/-- Loose numbers read the digits of their fields. -/
lemma reads_loose : Reads .loose := by
  intro f d ds rest
  have number := takeNumber?_digits f.one_le_width ds rest
  obtain ⟨c, front, here, digit⟩ := ds.begins f.one_le_width
  rw [here, List.cons_append] at number ⊢
  rw [Item.read?, takeLoose?_of_isDigit digit, number]
  rfl

/-! ## Items in a row -/

/-- Where the first item has been read the others go on. -/
lemma readItems?_cons {item : Item} {items : List Item} {d d' : Draft} {text rest : List Char}
    (read : item.read? d text = some (d', rest)) :
    readItems? (item :: items) d text = readItems? items d' rest := by
  rw [readItems?, read]
  rfl

/-- Where the first item is refused all are. -/
lemma readItems?_refused {item : Item} {items : List Item} {d : Draft} {text : List Char}
    (read : item.read? d text = none) : readItems? (item :: items) d text = none := by
  rw [readItems?, read]
  rfl

/-- A mark reads itself. -/
lemma read?_mark (c : Char) (d : Draft) (rest : List Char) :
    (Item.mark c).read? d (c :: rest) = some (d, rest) :=
  if_pos rfl

/-- The items of a date, with numbers read as they may be. -/
def dayItems (number : Field → Item) : List Item :=
  [number .year, .mark '-', number .month, .mark '-', number .day]

/-- The items of hours and minutes. -/
def hourItems (number : Field → Item) : List Item :=
  [number .hour, .mark ':', number .minute]

/-- The items of hours, minutes and seconds. -/
def clockItems (number : Field → Item) : List Item :=
  hourItems number ++ [.mark ':', number .second, .fraction]

/-- What is known when the date is read. -/
def Day.draft (d : Day) : Draft :=
  { Draft.start with year := d.year.value, month := d.month.value, day := d.day.value }

/-- The items of a date read its text. -/
lemma readItems?_dayItems {number : Field → Item} (reads : Reads number) (d : Day)
    (items : List Item) (rest : List Char) :
    readItems? (dayItems number ++ items) .start (d.text ++ rest) =
      readItems? items d.draft rest := by
  simp only [dayItems, Day.text, List.cons_append, List.nil_append, List.append_assoc]
  rw [readItems?_cons (reads .year _ d.year _), readItems?_cons (read?_mark _ _ _)]
  rw [readItems?_cons (reads .month _ d.month _), readItems?_cons (read?_mark _ _ _)]
  rw [readItems?_cons (reads .day _ d.day _)]
  rfl

/-- The items of hours and minutes read their text. -/
lemma readItems?_hourItems {number : Field → Item} (reads : Reads number) (hour minute : Digits 2)
    (items : List Item) (d : Draft) (rest : List Char) :
    readItems? (hourItems number ++ items) d (hour.chars ++ ':' :: (minute.chars ++ rest)) =
      readItems? items { d with hour := hour.value, minute := minute.value } rest := by
  simp only [hourItems, List.cons_append, List.nil_append]
  rw [readItems?_cons (reads .hour _ hour _), readItems?_cons (read?_mark _ _ _)]
  rw [readItems?_cons (reads .minute _ minute _)]
  rfl

/-! ## Fractions -/

/-- The text begins with nothing that belongs to a number or a time of day. -/
def Stops (text : List Char) : Prop :=
  ∀ c ∈ text.head?, c.isDigit = false ∧ c ≠ '.' ∧ c ≠ ':'

/-- Each zero behind digits makes their number ten times as great. -/
lemma natOfDigits_zeros (digits : List Char) (zeros : Nat) :
    natOfDigits (digits ++ List.replicate zeros '0') = natOfDigits digits * 10 ^ zeros := by
  induction zeros with
  | zero => simp only [List.replicate_zero, List.append_nil, Nat.pow_zero, Nat.mul_one]
  | succ zeros ih =>
    have last : natOfDigits (digits ++ List.replicate (zeros + 1) '0') =
        natOfDigits (digits ++ List.replicate zeros '0') * 10 := by
      rw [List.replicate_succ', ← List.append_assoc, natOfDigits, List.foldl_append]
      rfl
    rw [last, ih, Nat.pow_succ, Nat.mul_assoc]

/-- The digits of a fraction count as nanoseconds do. -/
lemma nanosOfDigits_eq (f : Fraction) : nanosOfDigits f.chars = Fraction.nanos (some f) := by
  have nine : (f.chars ++ List.replicate 9 '0').take 9 =
      f.chars.take 9 ++ List.replicate (9 - f.chars.length) '0' := by
    rw [List.take_append, List.take_replicate, Nat.min_eq_left (Nat.sub_le _ _)]
  have missing : 9 - (f.chars.take 9).length = 9 - f.chars.length := by
    rw [List.length_take]
    omega
  show natOfDigits (f.chars.take 9) * 10 ^ (9 - (f.chars.take 9).length) =
    natOfDigits ((f.chars ++ List.replicate 9 '0').take 9)
  rw [nine, natOfDigits_zeros, missing]

/-- Digits are told from what follows where no digit does. -/
lemma span_of_stops {digits rest : List Char} (all_digits : ∀ c ∈ digits, c.isDigit = true)
    (stops : Stops rest) :
    (digits ++ rest).takeWhile Char.isDigit = digits ∧
      (digits ++ rest).dropWhile Char.isDigit = rest := by
  rw [List.takeWhile_append_of_pos all_digits, List.dropWhile_append_of_pos all_digits]
  cases rest with
  | nil => exact ⟨List.append_nil _, rfl⟩
  | cons c rest =>
    have other : ¬ c.isDigit = true := by
      rw [(stops c rfl).1]
      decide
    rw [List.takeWhile_cons_of_neg other, List.dropWhile_cons_of_neg other]
    exact ⟨List.append_nil _, rfl⟩

/-- A fraction is read from its text. -/
lemma read?_fraction (f : Option Fraction) {d : Draft} (zero : d.nanos = 0) {rest : List Char}
    (stops : Stops rest) :
    Item.fraction.read? d (Fraction.text f ++ rest) =
      some ({ d with nanos := Fraction.nanos f }, rest) := by
  cases f with
  | none =>
    have same : { d with nanos := 0 } = d := by rw [← zero]
    rw [show Fraction.nanos none = 0 from rfl, same]
    cases rest with
    | nil => rfl
    | cons c rest =>
      have no_point := (stops c rfl).2.1
      simp only [Fraction.text, List.nil_append, Item.read?]
      split
      · rename_i point
        cases point
        exact absurd rfl no_point
      · rfl
  | some f =>
    obtain ⟨front, behind⟩ := span_of_stops f.all_digits stops
    simp only [Fraction.text, List.cons_append, Item.read?, front, behind, if_neg f.some_digit,
      nanosOfDigits_eq]

/-! ## Times of day -/

/-- What is known when the time of day is read. -/
def Clock.draft (c : Clock) (d : Draft) : Draft :=
  { d with hour := c.hour, minute := c.minute, second := c.second, nanos := c.nanos }

/-- Items of hours, minutes and seconds read a time of day that has seconds. -/
lemma readItems?_clockItems {number : Field → Item} (reads : Reads number)
    (hour minute second : Digits 2) (f : Option Fraction) (items : List Item) {d : Draft}
    (zero : d.nanos = 0) {rest : List Char} (stops : Stops rest) :
    readItems? (clockItems number ++ items) d ((Clock.seconds hour minute second f).text ++ rest) =
      readItems? items ((Clock.seconds hour minute second f).draft d) rest := by
  simp only [clockItems, Clock.text, List.append_assoc, List.cons_append, List.nil_append]
  rw [readItems?_hourItems reads, readItems?_cons (read?_mark _ _ _)]
  rw [readItems?_cons (reads .second _ second _)]
  have still_zero : (Draft.note { d with hour := hour.value, minute := minute.value } .second
      second.value).nanos = 0 := zero
  exact readItems?_cons (read?_fraction f still_zero stops)

/-- They do not read one without. -/
lemma readItems?_clockItems_minutes {number : Field → Item} (reads : Reads number)
    (hour minute : Digits 2) (items : List Item) (d : Draft) {rest : List Char}
    (stops : Stops rest) :
    readItems? (clockItems number ++ items) d ((Clock.minutes hour minute).text ++ rest) =
      none := by
  simp only [clockItems, Clock.text, List.append_assoc, List.cons_append, List.nil_append]
  rw [readItems?_hourItems reads, readItems?_refused]
  exact if_neg fun colon => (stops ':' colon).2.2 rfl

/-- Items of hours and minutes read a time of day that has no seconds. -/
lemma readItems?_hourItems_minutes (hour minute : Digits 2) (items : List Item) {d : Draft}
    (zero : d.second = 0 ∧ d.nanos = 0) (rest : List Char) :
    readItems? (hourItems .loose ++ items) d ((Clock.minutes hour minute).text ++ rest) =
      readItems? items ((Clock.minutes hour minute).draft d) rest := by
  have same : (Clock.minutes hour minute).draft d =
      { d with hour := hour.value, minute := minute.value } := by
    simp only [Clock.draft, Clock.hour, Clock.minute, Clock.second, Clock.nanos, zero.1, zero.2]
  simp only [Clock.text, List.append_assoc, List.cons_append]
  rw [readItems?_hourItems reads_loose, same]

/-- They read of one with seconds what stands before the seconds. -/
lemma readItems?_hourItems_seconds (hour minute second : Digits 2) (f : Option Fraction)
    (items : List Item) (d : Draft) (rest : List Char) :
    ∃ d' behind,
      readItems? (hourItems .loose ++ items) d
          ((Clock.seconds hour minute second f).text ++ rest) =
        readItems? items d' (':' :: behind) := by
  refine ⟨{ d with hour := hour.value, minute := minute.value },
    second.chars ++ (Fraction.text f ++ rest), ?_⟩
  simp only [Clock.text, List.append_assoc, List.cons_append]
  rw [readItems?_hourItems reads_loose]

/-! ## Distances from UTC -/

/-- The minutes of the distance are not too many to be read. -/
def Zone.Readable : Zone → Prop
  | minutes _ _ minute => minute.value ≤ 59
  | _ => True

/-- The text of a distance stops a time of day. -/
lemma Zone.stops {z : Zone} (plain : z ≠ .named) : Stops z.text := by
  intro c first
  cases z with
  | absent => cases first
  | zulu => cases first; decide
  | hours sign _ => cases sign <;> cases first <;> decide
  | minutes sign _ _ => cases sign <;> cases first <;> decide
  | named => exact absurd rfl plain

/-- A signed number is the number times its sign. -/
lemma Sign.apply_eq (sign : Sign) (n : Nat) : sign.apply n = sign.apply 1 * n := by
  cases sign <;> simp [Sign.apply]

/-- Two digits are taken as the number that they spell. -/
lemma takeTwo?_digits (ds : Digits 2) (rest : List Char) :
    takeTwo? (ds.chars ++ rest) = some (ds.value, rest) :=
  takeNumber?_digits (Nat.le_refl 2) ds rest

/-- Two digits are taken as minutes if they spell less than sixty. -/
lemma takeMinutes?_digits (ds : Digits 2) :
    takeMinutes? ds.chars = if ds.value ≤ 59 then some (ds.value, []) else none := by
  have two := takeTwo?_digits ds []
  rw [List.append_nil] at two
  rw [takeMinutes?, two]
  rfl

/-- A signed distance is read by its hours and what stands behind them. -/
lemma takeLooseZone?_signed (sign : Sign) (hour : Digits 2) (rest : List Char) :
    takeLooseZone? (sign.char :: (hour.chars ++ rest)) =
      match rest.dropWhile fun c => c == ':' || isBlank c with
      | [] => some (sign.apply 1 * (3600 * hour.value), [])
      | r =>
        (takeMinutes? r).bind fun (minutes, r) =>
          some (sign.apply 1 * (3600 * hour.value + 60 * minutes), r) := by
  have two := takeTwo?_digits hour rest
  cases sign with
  | ahead =>
    rw [takeLooseZone?, show Sign.ahead.char = '+' from rfl, trimStart_of_not_blank (by decide)]
    show Option.bind (takeTwo? (hour.chars ++ rest)) _ = _
    rw [two]
    rfl
  | behind =>
    rw [takeLooseZone?, show Sign.behind.char = '-' from rfl, trimStart_of_not_blank (by decide)]
    show Option.bind (takeTwo? (hour.chars ++ rest)) _ = _
    rw [two]
    rfl

/-- A signed distance is read exactly by its hours and the minutes behind a colon or none. -/
lemma takeExactZone?_signed (sign : Sign) (hour : Digits 2) (rest : List Char) :
    takeExactZone? (sign.char :: (hour.chars ++ rest)) =
      match rest with
      | ':' :: r =>
        (takeMinutes? r).bind fun (minutes, r) =>
          some (sign.apply 1 * (3600 * hour.value + 60 * minutes), r)
      | _ => none := by
  have two := takeTwo?_digits hour rest
  cases sign with
  | ahead =>
    show Option.bind (takeTwo? (hour.chars ++ rest)) _ = _
    rw [two]
    rfl
  | behind =>
    show Option.bind (takeTwo? (hour.chars ++ rest)) _ = _
    rw [two]
    rfl

/-- Loose items skip no more than the colon in front of a digit. -/
lemma dropWhile_colon_of_isDigit {b : Char} (digit : b.isDigit = true) (rest : List Char) :
    (':' :: b :: rest).dropWhile (fun c => c == ':' || isBlank c) = b :: rest := by
  have kept : ¬ (b == ':' || isBlank b) = true := by
    rw [isBlank_of_isDigit digit, Bool.or_false, beq_iff_eq]
    rintro rfl
    exact absurd digit (by decide)
  rw [List.dropWhile_cons_of_pos (by decide)]
  exact List.dropWhile_cons_of_neg kept

/-- The colon between hours and minutes is all that loose items skip. -/
lemma dropWhile_colon (minute : Digits 2) :
    (':' :: minute.chars).dropWhile (fun c => c == ':' || isBlank c) = minute.chars := by
  obtain ⟨b, rest, here, digit⟩ := minute.begins (by decide)
  rw [here]
  exact dropWhile_colon_of_isDigit digit rest

/-- A reader reads what there is to read, or nothing. -/
def Yields {α : Type} (read : Option α) (a : α) (readable : Prop) : Prop :=
  read = none ∨ (read = some a ∧ readable)

/-- The seconds of hours and minutes are the distance that they spell. -/
lemma offset_minutes (sign : Sign) (hour minute : Digits 2) :
    sign.apply 1 * (3600 * (hour.value : Int) + 60 * minute.value) =
      (Zone.minutes sign hour minute).offset := by
  rw [Zone.offset, Sign.apply_eq sign (_ + _)]
  push_cast
  rfl

/-- The seconds of hours are the distance that they spell. -/
lemma offset_hours (sign : Sign) (hour : Digits 2) :
    sign.apply 1 * (3600 * (hour.value : Int)) = (Zone.hours sign hour).offset := by
  rw [Zone.offset, Sign.apply_eq sign (_ * _)]
  push_cast
  rfl

/-- Loose items read every distance that is written down and readable. -/
lemma takeLooseZone?_text {z : Zone} (plain : z ≠ .named) (some_text : z ≠ .absent) :
    (z.Readable → takeLooseZone? z.text = some (z.offset, [])) ∧
      (¬ z.Readable → takeLooseZone? z.text = none) := by
  cases z with
  | absent => exact absurd rfl some_text
  | zulu => exact ⟨fun _ => rfl, fun unreadable => absurd trivial unreadable⟩
  | hours sign hour =>
    have read := takeLooseZone?_signed sign hour []
    rw [List.append_nil] at read
    refine ⟨fun _ => ?_, fun unreadable => absurd trivial unreadable⟩
    rw [Zone.text, read, ← offset_hours]
    rfl
  | minutes sign hour minute =>
    obtain ⟨c, rest, here⟩ := List.exists_cons_of_ne_nil minute.ne_nil
    have read : takeLooseZone? (Zone.minutes sign hour minute).text =
        (takeMinutes? minute.chars).bind fun (minutes, r) =>
          some (sign.apply 1 * (3600 * hour.value + 60 * minutes), r) := by
      rw [Zone.text, List.cons_append, takeLooseZone?_signed, dropWhile_colon, here]
    rw [takeMinutes?_digits] at read
    constructor
    · intro readable
      have few : minute.value ≤ 59 := readable
      rw [read, if_pos few, ← offset_minutes]
      rfl
    · intro unreadable
      have many : ¬ minute.value ≤ 59 := unreadable
      rw [read, if_neg many]
      rfl
  | named => exact absurd rfl plain

/-- Strict items read a distance with minutes or nothing. -/
lemma takeExactZone?_text {z : Zone} (plain : z ≠ .named) :
    Yields (takeExactZone? z.text) (z.offset, []) z.Readable := by
  cases z with
  | absent => exact .inl rfl
  | zulu => exact .inr ⟨rfl, trivial⟩
  | hours sign hour =>
    have read := takeExactZone?_signed sign hour []
    rw [List.append_nil] at read
    exact .inl read
  | minutes sign hour minute =>
    have read : takeExactZone? (Zone.minutes sign hour minute).text =
        (takeMinutes? minute.chars).bind fun (minutes, r) =>
          some (sign.apply 1 * (3600 * hour.value + 60 * minutes), r) := by
      rw [Zone.text, List.cons_append, takeExactZone?_signed]
      rfl
    rw [takeMinutes?_digits] at read
    by_cases few : minute.value ≤ 59
    · refine .inr ⟨?_, few⟩
      rw [read, if_pos few, ← offset_minutes]
      rfl
    · left
      rw [read, if_neg few]
      rfl
  | named => exact absurd rfl plain

/-! ## Ends of patterns -/

/-- The items that a pattern with a time of day may end with. -/
def endings : List (List Item) := [[.exactZone], [.looseZone], []]

/-- Every ending reads a distance that is written down, or nothing. -/
lemma readItems?_ending {z : Zone} (plain : z ≠ .named) {items : List Item} (mem : items ∈ endings)
    {d : Draft} (zero : d.offset = 0) :
    Yields (readItems? items d z.text) { d with offset := z.offset } z.Readable := by
  simp only [endings, List.mem_cons, List.not_mem_nil, or_false] at mem
  rcases mem with rfl | rfl | rfl
  · rcases takeExactZone?_text plain with refused | ⟨read, readable⟩
    · refine .inl (readItems?_refused ?_)
      rw [Item.read?, refused]
      rfl
    · refine .inr ⟨?_, readable⟩
      rw [readItems?, Item.read?, read]
      rfl
  · by_cases absent : z = .absent
    · subst absent
      exact .inl rfl
    · obtain ⟨reads, refuses⟩ := takeLooseZone?_text plain absent
      by_cases readable : z.Readable
      · refine .inr ⟨?_, readable⟩
        rw [readItems?, Item.read?, reads readable]
        rfl
      · refine .inl (readItems?_refused ?_)
        rw [Item.read?, refuses readable]
        rfl
  · cases z with
    | absent =>
      have same : { d with offset := 0 } = d := by rw [← zero]
      refine .inr ⟨?_, trivial⟩
      show some d = some { d with offset := 0 }
      rw [same]
    | named => exact absurd rfl plain
    | _ => exact .inl rfl

/-- No ending reads what begins with a colon. -/
lemma readItems?_ending_colon {items : List Item} (mem : items ∈ endings) (d : Draft)
    (rest : List Char) : readItems? items d (':' :: rest) = none := by
  simp only [endings, List.mem_cons, List.not_mem_nil, or_false] at mem
  rcases mem with rfl | rfl | rfl
  · rfl
  · refine readItems?_refused ?_
    rw [Item.read?, takeLooseZone?, trimStart_of_not_blank (by decide)]
    rfl
  · rfl

/-- Nothing is known of the time of day and of the distance from UTC. -/
def Draft.Midnight (d : Draft) : Prop :=
  d.second = 0 ∧ d.nanos = 0 ∧ d.offset = 0

/-- Items of hours, minutes and seconds read a time of day and a distance, or nothing. -/
lemma yields_clockItems {number : Field → Item} (reads : Reads number) (c : Clock) {z : Zone}
    (plain : z ≠ .named) {items : List Item} (mem : items ∈ endings) {d : Draft}
    (midnight : d.Midnight) :
    Yields (readItems? (clockItems number ++ items) d (c.text ++ z.text))
      { c.draft d with offset := z.offset } z.Readable := by
  obtain ⟨-, no_nanos, no_offset⟩ := midnight
  cases c with
  | minutes hour minute =>
    exact .inl (readItems?_clockItems_minutes reads hour minute items d (Zone.stops plain))
  | seconds hour minute second f =>
    rw [readItems?_clockItems reads hour minute second f items no_nanos (Zone.stops plain)]
    have still_zero : ((Clock.seconds hour minute second f).draft d).offset = 0 := no_offset
    exact readItems?_ending plain mem still_zero

/-- Items of hours and minutes read a time of day and a distance, or nothing. -/
lemma yields_hourItems (c : Clock) {z : Zone} (plain : z ≠ .named) {items : List Item}
    (mem : items ∈ endings) {d : Draft} (midnight : d.Midnight) :
    Yields (readItems? (hourItems .loose ++ items) d (c.text ++ z.text))
      { c.draft d with offset := z.offset } z.Readable := by
  obtain ⟨no_second, no_nanos, no_offset⟩ := midnight
  cases c with
  | minutes hour minute =>
    rw [readItems?_hourItems_minutes hour minute items ⟨no_second, no_nanos⟩]
    have still_zero : ((Clock.minutes hour minute).draft d).offset = 0 := no_offset
    exact readItems?_ending plain mem still_zero
  | seconds hour minute second f =>
    obtain ⟨d', behind, read⟩ := readItems?_hourItems_seconds hour minute second f items d z.text
    exact .inl (read.trans (readItems?_ending_colon mem d' behind))

/-! ## Patterns -/

/-- The item that reads a separator and no other. -/
def Separator.item : Separator → Item
  | letter => .mark 'T'
  | space => .blanks

/-- What a pattern is made of. -/
inductive Pattern : List Item → Prop
  | strict :
    Pattern (dayItems .exact ++ .timeMark :: (clockItems .exact ++ [.exactZone]))
  | clock {separator : Separator} {items : List Item} :
    items ∈ endings →
    Pattern (dayItems .loose ++ separator.item :: (clockItems .loose ++ items))
  | hour {separator : Separator} {items : List Item} :
    items ∈ endings →
    Pattern (dayItems .loose ++ separator.item :: (hourItems .loose ++ items))
  | date : Pattern (dayItems .loose ++ [])

/-- Each of the patterns is made in one of the ways in which patterns are. -/
lemma pattern_of_mem {items : List Item} (mem : items ∈ patterns) : Pattern items := by
  have zoned : [Item.looseZone] ∈ endings := by decide
  have unzoned : [] ∈ endings := by decide
  simp only [patterns, List.mem_cons, List.not_mem_nil, or_false] at mem
  rcases mem with rfl | rfl | rfl | rfl | rfl | rfl | rfl | rfl | rfl | rfl
  · exact .strict
  · exact @Pattern.clock .letter _ zoned
  · exact @Pattern.clock .space _ zoned
  · exact @Pattern.hour .letter _ zoned
  · exact @Pattern.hour .space _ zoned
  · exact @Pattern.clock .letter _ unzoned
  · exact @Pattern.clock .space _ unzoned
  · exact @Pattern.hour .letter _ unzoned
  · exact @Pattern.hour .space _ unzoned
  · exact .date

/-- The text of a time of day begins with a digit. -/
lemma Clock.begins (c : Clock) (rest : List Char) :
    ∃ b behind, c.text ++ rest = b :: behind ∧ b.isDigit = true := by
  cases c with
  | minutes hour minute =>
    obtain ⟨b, front, here, digit⟩ := hour.begins (by decide)
    exact ⟨b, front ++ ':' :: minute.chars ++ rest, by simp [text, here], digit⟩
  | seconds hour minute second f =>
    obtain ⟨b, front, here, digit⟩ := hour.begins (by decide)
    exact ⟨b, front ++ ':' :: minute.chars ++ ':' :: second.chars ++ Fraction.text f ++ rest,
      by simp [text, here], digit⟩

/-- The item of a separator reads it. -/
lemma read?_separator (separator : Separator) (d : Draft) {b : Char} (rest : List Char)
    (digit : b.isDigit = true) :
    separator.item.read? d (separator.char :: b :: rest) = some (d, b :: rest) := by
  cases separator with
  | letter => exact read?_mark _ _ _
  | space =>
    show some (d, trimStart (' ' :: b :: rest)) = some (d, b :: rest)
    rw [trimStart, List.dropWhile_cons_of_pos (by decide)]
    exact congrArg (fun text => some (d, text)) (trimStart_of_not_blank (isBlank_of_isDigit digit))

/-- A separator is read by its own item, or it keeps an hour from being read. -/
lemma readItems?_separator (own separator : Separator) (items : List Item) (d : Draft) {b : Char}
    (rest : List Char) (digit : b.isDigit = true) :
    readItems? (own.item :: .loose .hour :: items) d (separator.char :: b :: rest) = none ∨
      readItems? (own.item :: .loose .hour :: items) d (separator.char :: b :: rest) =
        readItems? (.loose .hour :: items) d (b :: rest) := by
  cases own with
  | letter =>
    cases separator with
    | letter => exact .inr (readItems?_cons (read?_separator .letter d rest digit))
    | space => exact .inl (readItems?_refused rfl)
  | space =>
    cases separator with
    | letter =>
      refine .inl ?_
      have skipped : Separator.space.item.read? d ('T' :: b :: rest) =
          some (d, 'T' :: b :: rest) := rfl
      rw [show Separator.letter.char = 'T' from rfl, readItems?_cons skipped]
      exact readItems?_refused rfl
    | space => exact .inr (readItems?_cons (read?_separator .space d rest digit))

/-- What a pattern reads behind a separator it reads with its own item in front of that. -/
lemma yields_separated {own separator : Separator} {clock : Clock} {zone : Zone}
    {items : List Item} {d d' : Draft} {readable : Prop}
    (read : Yields (readItems? (.loose .hour :: items) d (clock.text ++ zone.text)) d' readable) :
    Yields (readItems? (own.item :: .loose .hour :: items) d
      (separator.char :: (clock.text ++ zone.text))) d' readable := by
  obtain ⟨b, rest, here, digit⟩ := clock.begins zone.text
  rw [here] at read ⊢
  rcases readItems?_separator own separator items d rest digit with refused | reads
  · exact .inl refused
  · rw [reads]
    exact read

/-- The mark of a time reads every separator. -/
lemma read?_timeMark (separator : Separator) (d : Draft) (rest : List Char) :
    Item.timeMark.read? d (separator.char :: rest) = some (d, rest) := by
  cases separator <;> rfl

/-! ## Spellings -/

/-- What is known when a spelling is read. -/
def Spelling.draft : Spelling → Draft
  | date day _ => day.draft
  | time day _ clock zone => { clock.draft day.draft with offset := zone.offset }

/-- A distance from UTC can be read if there is one. -/
def Spelling.Readable : Spelling → Prop
  | date _ _ => True
  | time _ _ _ zone => zone.Readable

/-- The spelling does not name UTC. -/
def Spelling.Plain : Spelling → Prop
  | date _ named => named = false
  | time _ _ _ zone => zone ≠ .named

/-- A date says nothing of the time of day. -/
lemma Day.midnight (d : Day) : d.draft.Midnight :=
  ⟨rfl, rfl, rfl⟩

/-- A date that is spelled alone has nothing behind it. -/
lemma Spelling.text_date (day : Day) : (date day false).text = day.text ++ [] :=
  rfl

/-- A time is spelled behind its date and separator, with its distance behind it. -/
lemma Spelling.text_time (day : Day) (separator : Separator) (clock : Clock) (zone : Zone) :
    (time day separator clock zone).text =
      day.text ++ separator.char :: (clock.text ++ zone.text) := by
  simp only [text, List.append_assoc, List.cons_append]

/-- Whatever the pattern, it reads what the spelling says or nothing. -/
theorem Spelling.yields {s : Spelling} (plain : s.Plain) {items : List Item}
    (pattern : Pattern items) : Yields (readItems? items .start s.text) s.draft s.Readable := by
  cases s with
  | date day named =>
    cases plain
    rw [text_date]
    cases pattern with
    -- A pattern with a time of day finds the end of the text behind the date, and fails there.
    | strict => exact .inl (readItems?_dayItems reads_exact day _ [])
    | @clock separator items _ =>
      left
      rw [readItems?_dayItems reads_loose]
      cases separator <;> rfl
    | @hour separator items _ =>
      left
      rw [readItems?_dayItems reads_loose]
      cases separator <;> rfl
    | date => exact .inr ⟨readItems?_dayItems reads_loose day [] [], trivial⟩
  | time day separator clock zone =>
    rw [text_time]
    cases pattern with
    | strict =>
      have strict_ending : [Item.exactZone] ∈ endings := List.mem_cons_self
      have read := yields_clockItems reads_exact clock plain strict_ending day.midnight
      rw [readItems?_dayItems reads_exact, readItems?_cons (read?_timeMark _ _ _)]
      exact read
    | @clock own items mem =>
      have read := yields_clockItems reads_loose clock plain mem day.midnight
      rw [readItems?_dayItems reads_loose]
      exact yields_separated read
    | @hour own items mem =>
      have read := yields_hourItems clock plain mem day.midnight
      rw [readItems?_dayItems reads_loose]
      exact yields_separated read
    -- The pattern of a date alone leaves the time of day over.
    | date =>
      left
      rw [readItems?_dayItems reads_loose]
      rfl

/-- Some ending that patterns have reads a distance from UTC that can be read. -/
lemma exists_ending {z : Zone} (plain : z ≠ .named) (readable : z.Readable) {d : Draft}
    (zero : d.offset = 0) :
    ∃ items, (items = [.looseZone] ∨ items = []) ∧
      readItems? items d z.text = some { d with offset := z.offset } := by
  by_cases absent : z = .absent
  · subst absent
    refine ⟨[], .inr rfl, ?_⟩
    have same : { d with offset := 0 } = d := by rw [← zero]
    show some d = some { d with offset := 0 }
    rw [same]
  · refine ⟨[.looseZone], .inl rfl, ?_⟩
    rw [readItems?, Item.read?, (takeLooseZone?_text plain absent).1 readable]
    rfl

/-- If the distance from UTC can be read, some pattern reads what the spelling says. -/
theorem Spelling.exists_pattern {s : Spelling} (plain : s.Plain) (readable : s.Readable) :
    ∃ items ∈ patterns, readItems? items .start s.text = some s.draft := by
  cases s with
  | date day named =>
    cases plain
    exact ⟨dateItems, by decide, readItems?_dayItems reads_loose day [] []⟩
  | time day separator clock zone =>
    obtain ⟨b, rest, here, digit⟩ := clock.begins zone.text
    cases clock with
    | minutes hour minute =>
      have still_zero : ((Clock.minutes hour minute).draft day.draft).offset = 0 := rfl
      obtain ⟨items, which, read⟩ := exists_ending plain readable still_zero
      refine ⟨dayItems .loose ++ separator.item :: (hourItems .loose ++ items), ?_, ?_⟩
      · rcases which with rfl | rfl <;> cases separator <;> decide
      · rw [text_time, readItems?_dayItems reads_loose, here,
          readItems?_cons (read?_separator separator _ rest digit), ← here,
          readItems?_hourItems_minutes hour minute items ⟨rfl, rfl⟩]
        exact read
    | seconds hour minute second f =>
      have still_zero : ((Clock.seconds hour minute second f).draft day.draft).offset = 0 := rfl
      obtain ⟨items, which, read⟩ := exists_ending plain readable still_zero
      refine ⟨dayItems .loose ++ separator.item :: (clockItems .loose ++ items), ?_, ?_⟩
      · rcases which with rfl | rfl <;> cases separator <;> decide
      · rw [text_time, readItems?_dayItems reads_loose, here,
          readItems?_cons (read?_separator separator _ rest digit), ← here,
          readItems?_clockItems reads_loose hour minute second f items rfl (Zone.stops plain)]
        exact read

/-! ## All patterns together -/

/-- If all tries fail or come to one result, and one comes to it, it is the result of all. -/
lemma findSome?_eq {α β : Type} {l : List α} {f : α → Option β} {r : Option β}
    (each : ∀ a ∈ l, f a = none ∨ f a = r) (one : ∃ a ∈ l, f a = r) : l.findSome? f = r := by
  induction l with
  | nil =>
    obtain ⟨_, mem, _⟩ := one
    cases mem
  | cons a l ih =>
    rw [List.findSome?_cons]
    cases r with
    | none =>
      -- Then every try fails, whichever it is.
      have refused : f a = none := (each a List.mem_cons_self).elim id id
      rw [refused]
      refine List.findSome?_eq_none_iff.2 fun b mem => ?_
      exact (each b (List.mem_cons_of_mem _ mem)).elim id id
    | some b =>
      rcases each a List.mem_cons_self with refused | found
      · rw [refused]
        refine ih (fun c mem => each c (List.mem_cons_of_mem _ mem)) ?_
        obtain ⟨c, mem, found⟩ := one
        rcases List.mem_cons.1 mem with rfl | mem
        · rw [refused] at found
          cases found
        · exact ⟨c, mem, found⟩
      · rw [found]

open Classical in
/-- The reader makes of a spelling the instant of its local date and time, if there is one and its
distance from UTC can be read. -/
theorem Spelling.findSome?_patterns {s : Spelling} (plain : s.Plain) :
    patterns.findSome? (fun items => readBy? items s.text) =
      if s.Readable then ofLocal? s.draft.toLocal else none := by
  have each (items : List Item) (mem : items ∈ patterns) :
      readBy? items s.text = none ∨
        (readBy? items s.text = ofLocal? s.draft.toLocal ∧ s.Readable) := by
    rcases s.yields plain (pattern_of_mem mem) with refused | ⟨read, readable⟩
    · left
      rw [readBy?, refused]
      rfl
    · refine .inr ⟨?_, readable⟩
      rw [readBy?, read]
      rfl
  by_cases readable : s.Readable
  · -- Some pattern reads it, and what the others read is no different.
    rw [if_pos readable]
    refine findSome?_eq (fun items mem => (each items mem).imp id And.left) ?_
    obtain ⟨items, mem, read⟩ := s.exists_pattern plain readable
    refine ⟨items, mem, ?_⟩
    rw [readBy?, read]
    rfl
  · rw [if_neg readable]
    refine List.findSome?_eq_none_iff.2 fun items mem => ?_
    rcases each items mem with refused | ⟨-, readable'⟩
    · exact refused
    · exact absurd readable' readable

end MetadataGateway.Timestamp
