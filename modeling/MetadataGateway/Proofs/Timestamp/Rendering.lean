import MetadataGateway.Proofs.Timestamp.Meaning

/-!
# Timestamps are read back

A timestamp that was read is written in UTC and read again as the same timestamp. Two things have to
fit: the date and time of day of an instant (`utc`) has to be one that there is, with that instant
(`Regular.exists_utc`, `Regular.ofLocal_utc`), and its text has to be read as that date and time
(`findSome?_text`). Years from 0 to 9999 are written in four digits, which makes the text a spelling
that all patterns agree on. Other years have a sign, which the strict pattern refuses and the next
one reads.
-/

namespace MetadataGateway.Timestamp

open Calendar Text Number

/-! ## What was read -/

/-- What a timestamp that was read is like: its year can hold timestamps, and only the last second
of a minute has a leap second behind it. -/
structure Regular (t : Timestamp) : Prop where
  year : isYear t.date.year = true
  nanos : t.nanos < 2 * nanosPerSecond
  leap : nanosPerSecond ≤ t.nanos → t.seconds % 60 = 59

/-- What has been read of a fraction is less than a second, and the distance from UTC is in whole
minutes. -/
def Draft.Sound (d : Draft) : Prop :=
  d.nanos < nanosPerSecond ∧ (60 : Int) ∣ d.offset

/-- The digits of a fraction are less than a second. -/
lemma nanosOfDigits_lt {digits : List Char} (all_digits : ∀ c ∈ digits, c.isDigit = true) :
    nanosOfDigits digits < nanosPerSecond := by
  have few : (digits.take 9).length ≤ 9 := List.length_take_le 9 digits
  have bound : natOfDigits (digits.take 9) < 10 ^ (digits.take 9).length := by
    have nine : ∀ c ∈ digits.take 9, c.isDigit = true :=
      fun c mem => all_digits c (List.mem_of_mem_take mem)
    have spelled := foldl_lt nine 0
    rwa [Nat.zero_add, Nat.one_mul] at spelled
  have pos : 0 < 10 ^ (9 - (digits.take 9).length) := Nat.pow_pos (by decide)
  calc natOfDigits (digits.take 9) * 10 ^ (9 - (digits.take 9).length)
      < 10 ^ (digits.take 9).length * 10 ^ (9 - (digits.take 9).length) :=
        Nat.mul_lt_mul_of_pos_right bound pos
    _ = nanosPerSecond := by
        rw [← Nat.pow_add, Nat.add_sub_cancel' few]
        rfl

/-- A distance that is read exactly is one of whole minutes. -/
lemma dvd_of_takeExactZone? {text rest : List Char} {n : Int}
    (read : takeExactZone? text = some (n, rest)) : (60 : Int) ∣ n := by
  unfold takeExactZone? at read
  split at read
  · cases read
    exact Int.dvd_zero 60
  · cases read
    exact Int.dvd_zero 60
  · simp only [Option.bind_eq_bind, Option.bind_eq_some_iff] at read
    obtain ⟨⟨sign, r⟩, -, ⟨hours, r⟩, -, read⟩ := read
    split at read
    · obtain ⟨⟨minutes, r⟩, -, read⟩ := Option.bind_eq_some_iff.1 read
      cases read
      exact Dvd.dvd.mul_left (by omega) sign
    · cases read

/-- A distance that is read loosely is one of whole minutes. -/
lemma dvd_of_takeLooseZone? {text rest : List Char} {n : Int}
    (read : takeLooseZone? text = some (n, rest)) : (60 : Int) ∣ n := by
  unfold takeLooseZone? at read
  split at read
  · cases read
    exact Int.dvd_zero 60
  · cases read
    exact Int.dvd_zero 60
  · simp only [Option.bind_eq_bind, Option.bind_eq_some_iff] at read
    obtain ⟨⟨sign, r⟩, -, ⟨hours, r⟩, -, read⟩ := read
    split at read
    · cases read
      exact Dvd.dvd.mul_left (by omega) sign
    · obtain ⟨⟨minutes, r⟩, -, read⟩ := Option.bind_eq_some_iff.1 read
      cases read
      exact Dvd.dvd.mul_left (by omega) sign

/-- A draft stays sound when a number is noted. -/
lemma Draft.Sound.note {d : Draft} (sound : d.Sound) (f : Field) (n : Int) :
    (d.note f n).Sound := by
  cases f <;> exact sound

/-- No item spoils what has been read. -/
lemma Draft.Sound.read? {d d' : Draft} (sound : d.Sound) {item : Item} {text rest : List Char}
    (read : item.read? d text = some (d', rest)) : d'.Sound := by
  cases item with
  | exact f | loose f =>
    obtain ⟨⟨n, r⟩, -, same⟩ := Option.map_eq_some_iff.1 read
    cases same
    exact sound.note f n
  | mark c =>
    rw [Item.read?] at read
    split_ifs at read
    cases read
    exact sound
  | timeMark =>
    unfold Item.read? at read
    dsimp only at read
    split at read <;> cases read <;> exact sound
  | blanks =>
    cases read
    exact sound
  | fraction =>
    unfold Item.read? at read
    dsimp only at read
    split at read
    · split_ifs at read
      cases read
      exact ⟨nanosOfDigits_lt fun c mem => List.mem_takeWhile_imp mem, sound.2⟩
    · cases read
      exact sound
  | exactZone =>
    obtain ⟨⟨n, r⟩, zone, same⟩ := Option.map_eq_some_iff.1 read
    cases same
    exact ⟨sound.1, dvd_of_takeExactZone? zone⟩
  | looseZone =>
    obtain ⟨⟨n, r⟩, zone, same⟩ := Option.map_eq_some_iff.1 read
    cases same
    exact ⟨sound.1, dvd_of_takeLooseZone? zone⟩

/-- A draft stays sound while items are read. -/
lemma Draft.Sound.readItems? {items : List Item} {d d' : Draft} {text : List Char} (sound : d.Sound)
    (read : readItems? items d text = some d') : d'.Sound := by
  induction items generalizing d text with
  | nil =>
    rw [Timestamp.readItems?] at read
    split_ifs at read
    cases read
    exact sound
  | cons item items ih =>
    obtain ⟨⟨d₁, rest⟩, first, others⟩ := Option.bind_eq_some_iff.1 read
    exact ih (sound.read? first) others

/-- The timestamp of a local time at a distance of whole minutes is regular. -/
lemma regular_of_ofLocal? {l : Local} {t : Timestamp} (nanos : l.nanos < nanosPerSecond)
    (minutes : (60 : Int) ∣ l.offset) (same : ofLocal? l = some t) : t.Regular := by
  rw [ofLocal?] at same
  split_ifs at same with there
  cases same
  obtain ⟨-, -, ⟨-, -, second⟩, -, year⟩ := l.exists_iff.1 there
  have total : (ofLocal l).nanos = l.nanos + if l.second = 60 then nanosPerSecond else 0 := rfl
  refine ⟨year, ?_, fun late => ?_⟩
  · rw [total]
    split <;> omega
  · -- The distance from UTC is in minutes, so the last second of a minute stays the last.
    have last : l.second = 60 := by
      by_contra other
      rw [total, if_neg other] at late
      omega
    rw [ofLocal, secondsPerDay, last]
    dsimp only
    omega

/-- Whatever is read is regular. -/
theorem regular_of_read? {text : List Char} {t : Timestamp} (read : read? text = some t) :
    t.Regular := by
  obtain ⟨pattern, -, tried⟩ := List.exists_of_findSome?_eq_some read
  obtain ⟨d, spelled, same⟩ := Option.bind_eq_some_iff.1 tried
  have start : Draft.start.Sound := ⟨by decide, Int.dvd_zero 60⟩
  obtain ⟨nanos, minutes⟩ := start.readItems? spelled
  exact regular_of_ofLocal? nanos minutes same

/-! ## Dates and times of instants -/

/-- The date and time of day of an instant in UTC, as it is written. -/
def utc (t : Timestamp) : Local :=
  let inDay := (t.seconds % secondsPerDay).toNat
  { date := t.date, hour := inDay / 3600, minute := inDay / 60 % 60
    second := if nanosPerSecond ≤ t.nanos then inDay % 60 + 1 else inDay % 60
    nanos := if nanosPerSecond ≤ t.nanos then t.nanos - nanosPerSecond else t.nanos
    offset := 0 }

/-- In UTC a regular timestamp has less than a second of nanoseconds. -/
lemma utc_nanos_lt {t : Timestamp} (regular : t.Regular) : t.utc.nanos < nanosPerSecond := by
  have small := regular.nanos
  rw [utc]
  dsimp only
  split_ifs <;> omega

/-- The date and time of an instant is at that instant. -/
lemma Regular.ofLocal_utc {t : Timestamp} (regular : t.Regular) : ofLocal t.utc = t := by
  obtain ⟨seconds, nanos⟩ := t
  have days := (Date.ofDayNumber_spec (seconds / secondsPerDay)).2
  have leap := regular.leap
  simp only [ofLocal, utc, date, secondsPerDay, Timestamp.mk.injEq] at days leap ⊢
  rw [days]
  by_cases late : nanosPerSecond ≤ nanos
  · -- Second 60 is written, and read as second 59 with the nanoseconds that it had.
    have last := leap late
    rw [if_pos late, if_pos late]
    constructor
    · omega
    · rw [if_pos (by omega)]
      omega
  · rw [if_neg late, if_neg late]
    constructor
    · omega
    · rw [if_neg (by omega)]
      omega

/-- In UTC there is the local time of a regular timestamp. -/
lemma Regular.exists_utc {t : Timestamp} (regular : t.Regular) : t.utc.exists = true := by
  have days := (Date.ofDayNumber_spec (t.seconds / secondsPerDay)).1
  have utc_offset : -(secondsPerDay : Int) < 0 ∧ (0 : Int) < secondsPerDay := by decide
  refine t.utc.exists_iff.2 ⟨days, regular.year, ⟨?_, ?_, ?_⟩, utc_offset, ?_⟩
  · simp only [utc, secondsPerDay]
    omega
  · simp only [utc]
    omega
  · simp only [utc]
    split <;> omega
  · rw [regular.ofLocal_utc]
    exact regular.year

/-! ## Numbers -/

section padded

variable {width n : Nat}

/-- A padded number has only digits. -/
lemma isDigit_of_mem_padded {c : Char} (mem : c ∈ padded width n) : c.isDigit = true := by
  rcases List.mem_append.1 mem with zero | digit
  · rw [List.eq_of_mem_replicate zero]
    rfl
  · exact Nat.isDigit_of_mem_toDigits (by decide) (by decide) digit

/-- A padded number is read back. -/
lemma natOfDigits_padded (width n : Nat) : natOfDigits (padded width n) = n := by
  have zeros (k : Nat) : (List.replicate k '0').foldl (fun n c => n * 10 + digitValue c) 0 = 0 := by
    induction k with
    | zero => rfl
    | succ k ih => exact ih
  have digits := natOfDigits_toDigits n
  rw [natOfDigits] at digits
  rw [natOfDigits, padded, List.foldl_append, zeros, digits]

/-- A padded number is not empty. -/
lemma padded_ne_nil (width n : Nat) : padded width n ≠ [] :=
  List.append_ne_nil_of_right_ne_nil _ Nat.toDigits_ne_nil

/-- A number that fits is padded to the width. -/
lemma length_padded (pos : 0 < width) (fits : n < 10 ^ width) :
    (padded width n).length = width := by
  have short := (Nat.length_toDigits_le_iff (by decide) pos).2 fits
  rw [padded, List.length_append, List.length_replicate]
  omega

/-- The digits of a number of so many. -/
def Digits.ofNat (pos : 0 < width) (fits : n < 10 ^ width) : Digits width where
  chars := padded width n
  length_eq := length_padded pos fits
  all_digits _ := isDigit_of_mem_padded

/-- The digits of a number spell it. -/
lemma Digits.value_ofNat (pos : 0 < width) (fits : n < 10 ^ width) :
    (Digits.ofNat pos fits).value = n :=
  natOfDigits_padded width n

/-- The digits of a fraction count as they would with zeros behind them. -/
lemma exists_fraction_padded (pos : 0 < width) (le : width ≤ 9) (fits : n < 10 ^ width) :
    ∃ f, Fraction.text f = '.' :: padded width n ∧ Fraction.nanos f = n * 10 ^ (9 - width) := by
  refine ⟨some ⟨padded width n, padded_ne_nil width n, fun _ => isDigit_of_mem_padded⟩, rfl, ?_⟩
  -- Of the zeros behind the digits, as many count as there are digits missing.
  have nine : (padded width n ++ List.replicate 9 '0').take 9 =
      padded width n ++ List.replicate (9 - width) '0' := by
    have length := length_padded pos fits
    rw [List.take_append, List.take_of_length_le (by omega), length, List.take_replicate,
      Nat.min_eq_left (Nat.sub_le _ _)]
  rw [Fraction.nanos, nine, natOfDigits_zeros, natOfDigits_padded]

/-- A fraction that is written means the nanoseconds that it is written for. -/
lemma exists_fraction {nanos : Nat} (fits : nanos < nanosPerSecond) :
    ∃ f, Fraction.text f = renderFraction nanos ∧ Fraction.nanos f = nanos := by
  rw [nanosPerSecond] at fits
  unfold renderFraction
  split_ifs with none three six
  · exact ⟨Option.none, rfl, none.symm⟩
  · obtain ⟨f, text, same⟩ :=
      @exists_fraction_padded 3 (nanos / 1000000) (by decide) (by decide) (by omega)
    exact ⟨f, text, by omega⟩
  · obtain ⟨f, text, same⟩ :=
      @exists_fraction_padded 6 (nanos / 1000) (by decide) (by decide) (by omega)
    exact ⟨f, text, by omega⟩
  · obtain ⟨f, text, same⟩ :=
      @exists_fraction_padded 9 nanos (by decide) (by decide) (by omega)
    exact ⟨f, text, by omega⟩

end padded

/-! ## Texts of dates and times -/

/-- A date and time in UTC, as it is written. -/
def Local.text (l : Local) : List Char :=
  renderYear l.date.year ++ ('-' :: padded 2 l.date.month ++ '-' :: padded 2 l.date.day)
    ++ 'T' :: (padded 2 l.hour ++ ':' :: padded 2 l.minute ++ ':' :: padded 2 l.second
      ++ renderFraction l.nanos) ++ ['Z']

/-- A timestamp is rendered as its local time in UTC. -/
lemma render_eq (t : Timestamp) : t.render = t.utc.text := by
  simp only [render, Local.text, utc, List.append_assoc, List.cons_append]

/-- What is known when the parts of a date and time in UTC are read. -/
def draftOf (year : Int) (month day hour minute second : Digits 2) (f : Option Fraction) : Draft :=
  { year := year, month := month.value, day := day.value, hour := hour.value
    minute := minute.value, second := second.value, nanos := Fraction.nanos f, offset := 0 }

/-- A date and time that is there is written in parts that say it. -/
lemma exists_parts {l : Local} (there : l.exists = true) (inUtc : l.offset = 0)
    (fraction : l.nanos < nanosPerSecond) :
    ∃ (month day hour minute second : Digits 2) (f : Option Fraction),
      (draftOf l.date.year month day hour minute second f).toLocal = l ∧
      l.text = renderYear l.date.year ++ ('-' :: month.chars ++ '-' :: day.chars) ++
        'T' :: (Clock.seconds hour minute second f).text ++ Zone.zulu.text := by
  obtain ⟨date, -, ⟨hours, minutes, seconds⟩, -, -⟩ := l.exists_iff.1 there
  obtain ⟨-, months, -, days⟩ := (Date.exists_iff l.date).1 date
  have short := daysInMonth_le l.date.year l.date.month
  have two {n : Nat} (few : n < 100) : ∃ ds : Digits 2, ds.value = n ∧ ds.chars = padded 2 n :=
    ⟨.ofNat (by decide) few, Digits.value_ofNat _ _, rfl⟩
  obtain ⟨month, month_value, month_text⟩ := two (n := l.date.month) (by omega)
  obtain ⟨day, day_value, day_text⟩ := two (n := l.date.day) (by omega)
  obtain ⟨hour, hour_value, hour_text⟩ := two (n := l.hour) (by omega)
  obtain ⟨minute, minute_value, minute_text⟩ := two (n := l.minute) (by omega)
  obtain ⟨second, second_value, second_text⟩ := two (n := l.second) (by omega)
  obtain ⟨f, f_text, f_nanos⟩ := exists_fraction fraction
  refine ⟨month, day, hour, minute, second, f, ?_, ?_⟩
  · rw [draftOf, Draft.toLocal, month_value, day_value, hour_value, minute_value, second_value,
      f_nanos, ← inUtc]
  · rw [Clock.text, month_text, day_text, hour_text, minute_text, second_text, f_text]
    rfl

/-- A year of four digits is rendered as these digits. -/
lemma exists_plainYear {year : Int} (plain : 0 ≤ year ∧ year ≤ 9999) :
    ∃ ds : Digits 4, (ds.value : Int) = year ∧ ds.chars = renderYear year := by
  have fits : year.toNat < 10 ^ 4 := by omega
  refine ⟨.ofNat (by decide) fits, ?_, ?_⟩
  · rw [Digits.value_ofNat]
    omega
  · rw [renderYear, if_pos (by simpa using plain)]
    rfl

/-- Another year is rendered with its sign. -/
lemma renderYear_signed {year : Int} (signed : ¬ (0 ≤ year ∧ year ≤ 9999)) :
    ∃ sign : Sign, renderYear year = sign.char :: padded 4 year.natAbs ∧
      sign.apply year.natAbs = year := by
  rw [renderYear, if_neg (by simpa using signed)]
  by_cases negative : year < 0
  · rw [if_pos negative]
    exact ⟨.behind, rfl, by simp only [Sign.apply]; omega⟩
  · rw [if_neg negative]
    exact ⟨.ahead, rfl, by simp only [Sign.apply]; omega⟩

/-- Digits are taken as far as they go. -/
lemma takeDigits?_append {digits rest : List Char} (some_digit : digits ≠ [])
    (all_digits : ∀ c ∈ digits, c.isDigit = true) (stops : Stops rest) :
    takeDigits? (digits ++ rest) = some (natOfDigits digits, rest) := by
  have front := (span_of_stops all_digits stops).1
  have least : 1 ≤ digits.length := List.length_pos_iff.2 some_digit
  rw [takeDigits?, takeNumber?, List.take_length, front, if_pos least, List.drop_left]

/-- A loose year takes its sign and all digits behind it. -/
lemma takeLoose?_signed (sign : Sign) (text : List Char) :
    takeLoose? .year (sign.char :: text) =
      (takeDigits? text).map fun (n, r) => (sign.apply n, r) := by
  have solid : isBlank sign.char = false := by cases sign <;> decide
  unfold takeLoose?
  rw [trimStart_of_not_blank solid]
  cases sign <;> rfl

/-- A year with a sign is read by loose items, whatever its digits. -/
lemma read?_signedYear (sign : Sign) (n : Nat) (d : Draft) {rest : List Char} (stops : Stops rest) :
    (Item.loose .year).read? d (sign.char :: (padded 4 n ++ rest)) =
      some ({ d with year := sign.apply n }, rest) := by
  have digits := takeDigits?_append (padded_ne_nil 4 n) (fun _ => isDigit_of_mem_padded) stops
  rw [Item.read?, takeLoose?_signed, digits, natOfDigits_padded]
  rfl

/-! ## Reading them back -/

/-- An exact year takes no sign. -/
lemma readItems?_exactYear (sign : Sign) (items : List Item) (d : Draft) (rest : List Char) :
    readItems? (.exact .year :: items) d (sign.char :: rest) = none := by
  refine readItems?_refused ?_
  have none : takeNumber? 4 4 (sign.char :: rest) = Option.none := by
    cases sign <;> rfl
  rw [Item.read?, show Field.width .year = 4 from rfl, none]
  rfl

/-- A date and time with a signed year is read by the second pattern. -/
lemma readItems?_signed (sign : Sign) (n : Nat) (month day hour minute second : Digits 2)
    (f : Option Fraction) :
    readItems? (dateItems ++ .mark 'T' :: secondItems ++ [.looseZone]) .start
        (sign.char :: padded 4 n ++ ('-' :: month.chars ++ '-' :: day.chars) ++
          'T' :: (Clock.seconds hour minute second f).text ++ Zone.zulu.text) =
      some (draftOf (sign.apply n) month day hour minute second f) := by
  -- The year ends before the dash, however many digits it has; the parts behind it have two each.
  have dash (rest : List Char) : Stops ('-' :: rest) := by
    intro c first
    cases first
    decide
  simp only [dateItems, List.cons_append, List.append_assoc, List.nil_append]
  rw [readItems?_cons (read?_signedYear sign n _ (dash _)), readItems?_cons (read?_mark _ _ _),
    readItems?_cons (reads_loose .month _ month _), readItems?_cons (read?_mark _ _ _),
    readItems?_cons (reads_loose .day _ day _), readItems?_cons (read?_mark _ _ _)]
  have zulu : Stops Zone.zulu.text := Zone.stops (by nofun)
  rw [show secondItems ++ [.looseZone] = clockItems .loose ++ [.looseZone] from rfl,
    readItems?_clockItems reads_loose hour minute second f _ rfl zulu]
  rfl

/-- The text of a date and time that is there is read as that date and time. -/
lemma findSome?_text {l : Local} (there : l.exists = true) (inUtc : l.offset = 0)
    (fraction : l.nanos < nanosPerSecond) :
    patterns.findSome? (fun items => readBy? items l.text) = some (ofLocal l) := by
  have instant : ofLocal? l = some (ofLocal l) := by rw [ofLocal?, if_pos there]
  obtain ⟨month, day, hour, minute, second, f, same, text⟩ := exists_parts there inUtc fraction
  by_cases plain : 0 ≤ l.date.year ∧ l.date.year ≤ 9999
  · obtain ⟨year, year_value, year_text⟩ := exists_plainYear plain
    let s := Spelling.time ⟨year, month, day⟩ .letter (.seconds hour minute second f) .zulu
    have spelled : l.text = s.text := by
      rw [text, ← year_text]
      simp only [s, Spelling.text, Day.text, Separator.char, List.append_assoc, List.cons_append]
    have draft : s.draft = draftOf l.date.year month day hour minute second f := by
      rw [← year_value]
      rfl
    have unnamed : s.Plain := by
      intro named
      cases named
    have readable : s.Readable := trivial
    rw [spelled, Spelling.findSome?_patterns unnamed, if_pos readable, draft, same, instant]
  · -- The strict pattern refuses the sign, and the next one reads the text.
    obtain ⟨sign, year_text, year_value⟩ := renderYear_signed plain
    rw [year_text] at text
    have second_reads : readBy? (dateItems ++ .mark 'T' :: secondItems ++ [.looseZone]) l.text =
        some (ofLocal l) := by
      rw [readBy?, text, readItems?_signed, year_value, Option.bind_some, same, instant]
    have strict (items : List Item) : readBy? (.exact .year :: items) l.text = none := by
      rw [readBy?, text]
      rw [List.append_assoc, List.append_assoc, List.cons_append, readItems?_exactYear]
      rfl
    rw [patterns, List.findSome?_cons, strict, List.findSome?_cons, second_reads]

/-- A year is rendered without white space in front. -/
lemma renderYear_begins (year : Int) :
    ∃ c rest, renderYear year = c :: rest ∧ isBlank c = false := by
  by_cases plain : 0 ≤ year ∧ year ≤ 9999
  · obtain ⟨ds, -, text⟩ := exists_plainYear plain
    obtain ⟨c, rest, here, digit⟩ := ds.begins (by decide)
    exact ⟨c, rest, by rw [← text, here], isBlank_of_isDigit digit⟩
  · obtain ⟨sign, text, -⟩ := renderYear_signed plain
    exact ⟨sign.char, _, text, by cases sign <;> decide⟩

/-- The text of a local time has no name of UTC to lose. -/
lemma withoutZoneName_text (l : Local) : withoutZoneName l.text = l.text := by
  have ends : Ends l.text := ⟨_, 'Z', rfl, .inr rfl⟩
  refine ends.withoutZoneName ?_
  obtain ⟨c, rest, here, solid⟩ := renderYear_begins l.date.year
  rw [Local.text, here]
  exact trimStart_of_not_blank solid

/-- A regular timestamp is written as a text that is read as that timestamp. -/
theorem read?_render {t : Timestamp} (regular : t.Regular) : read? t.render = some t := by
  rw [render_eq, read?, withoutZoneName_text,
    findSome?_text regular.exists_utc rfl (utc_nanos_lt regular), regular.ofLocal_utc]

/-- So the regular timestamps are those that some text is read as. -/
theorem regular_iff {t : Timestamp} : t.Regular ↔ ∃ text, read? text = some t :=
  ⟨fun regular => ⟨t.render, read?_render regular⟩, fun ⟨_, read⟩ => regular_of_read? read⟩

/-! ## Coercion and back -/

/-- A text is coerced to the timestamp that it is read as, but for the empty text. -/
lemma coerce_eq_ok_iff {raw : String} {t : Timestamp} :
    Coercion.coerce .timestamp raw = .ok (.timestamp (some t)) ↔
      raw ≠ "" ∧ read? raw.toList = some t := by
  unfold Coercion.coerce Coercion.timestampOf
  by_cases no_text : raw = ""
  · rw [if_pos no_text]
    exact ⟨nofun, fun read => absurd no_text read.1⟩
  · rw [if_neg no_text]
    constructor
    · intro coerced
      cases read : read? raw.toList with
      | none =>
        rw [read] at coerced
        cases coerced
      | some t' =>
        rw [read] at coerced
        cases coerced
        exact ⟨no_text, rfl⟩
    · rintro ⟨-, read⟩
      rw [read]
      rfl

/-- A timestamp that comes of a text, written as JSON, is coerced to that timestamp again: its
seconds and its nanoseconds are those that it had. -/
theorem coerce_render {raw : String} {t : Timestamp}
    (coerced : Coercion.coerce .timestamp raw = .ok (.timestamp (some t))) :
    ∃ text : String, (Argument.timestamp (some t)).toJson = .string text ∧
      Coercion.coerce .timestamp text = .ok (.timestamp (some t)) := by
  obtain ⟨-, read⟩ := coerce_eq_ok_iff.1 coerced
  refine ⟨String.ofList t.render, rfl, coerce_eq_ok_iff.2 ⟨?_, ?_⟩⟩
  · intro no_text
    have empty := congrArg String.toList no_text
    rw [String.toList_ofList, render_eq] at empty
    exact List.append_ne_nil_of_right_ne_nil _ (List.cons_ne_nil _ _) empty
  · rw [String.toList_ofList]
    exact read?_render (regular_of_read? read)

/-- Half a leap second at the end of the year 10000, in a zone behind UTC. -/
theorem coerce_render_leap :
    let t : Timestamp := ⟨253433923199, 1500000000⟩
    Coercion.coerce .timestamp " +10000-12-31T18:59:60.5-05:00" = .ok (.timestamp (some t)) ∧
      ∃ text : String, (Argument.timestamp (some t)).toJson = .string text ∧
        Coercion.coerce .timestamp text = .ok (.timestamp (some t)) := by
  intro t
  have coerced : Coercion.coerce .timestamp " +10000-12-31T18:59:60.5-05:00" =
      .ok (.timestamp (some t)) := coerce_eq_ok_iff.2 ⟨by decide, by decide⟩
  exact ⟨coerced, coerce_render coerced⟩

end MetadataGateway.Timestamp
