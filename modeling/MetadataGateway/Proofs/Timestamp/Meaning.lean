import MetadataGateway.Coercion
import MetadataGateway.Proofs.Timestamp.Reading

/-!
# What timestamps mean

A spelling is coerced to the instant that it means, if there is such a date, time of day and
distance from UTC, and to an error if there is not (`Spelling.coerce_text`). The ten patterns that
the reader tries, and the two representations of a distance from UTC, make no difference to that.
-/

namespace MetadataGateway.Timestamp

open Calendar Text Number

/-! ## How large numbers are -/

/-- So many digits spell a number with no more digits. -/
lemma Digits.value_lt {n : Nat} (ds : Digits n) : ds.value < 10 ^ n := by
  have bound := foldl_lt ds.all_digits 0
  rw [ds.length_eq, Nat.zero_add, Nat.one_mul] at bound
  exact bound

/-- A distance from UTC exists if its minutes can be read and it is shorter than a day. -/
lemma Zone.valid_iff (z : Zone) :
    z.Valid ↔ z.Readable ∧ -(secondsPerDay : Int) < z.offset ∧ z.offset < secondsPerDay := by
  cases z with
  | hours sign hour =>
    cases sign <;> simp only [Valid, Readable, offset, Sign.apply, secondsPerDay, true_and] <;>
      omega
  | minutes sign hour minute =>
    cases sign <;> simp only [Valid, Readable, offset, Sign.apply, secondsPerDay] <;> omega
  | _ => simp [Valid, Readable, offset, secondsPerDay]

/-! ## Which dates and times there are -/

/-- A year is one of the calendar just if it lies between the first and the last. -/
lemma isYear_iff (year : Int) : isYear year = true ↔ firstYear ≤ year ∧ year ≤ lastYear := by
  simp only [isYear, Bool.and_eq_true, decide_eq_true_eq]

/-- A local time exists just if there is such a date, time of day and distance, and both its years
are of the calendar. -/
lemma Local.exists_iff (l : Local) :
    l.exists = true ↔
      l.date.exists = true ∧ isYear l.date.year = true ∧
        (l.hour ≤ 23 ∧ l.minute ≤ 59 ∧ l.second ≤ 60) ∧
        (-(secondsPerDay : Int) < l.offset ∧ l.offset < secondsPerDay) ∧
        isYear (ofLocal l).date.year = true := by
  simp only [Local.exists, Bool.and_eq_true, decide_eq_true_eq, and_assoc]

/-- The date of a day exists just if the day is valid. -/
lemma Day.exists_iff (d : Day) : d.toDate.exists = true ↔ d.Valid :=
  Date.exists_iff d.toDate

/-- A year of four digits is one of the calendar. -/
lemma Day.isYear (d : Day) : isYear d.toDate.year = true := by
  have small := d.year.value_lt
  rw [isYear_iff]
  show -262143 ≤ (d.year.value : Int) ∧ (d.year.value : Int) ≤ 262142
  omega

/-- The days to a date with a year of four digits are not many. -/
lemma Day.dayNumber_bounds {d : Day} (valid : d.Valid) :
    -800000 ≤ d.toDate.dayNumber ∧ d.toDate.dayNumber ≤ 3000000 := by
  obtain ⟨-, month_le, one_le_day, day_le⟩ := valid
  have year := d.year.value_lt
  have months := daysOfMonths_le d.year.value (d.month.value - 1)
  have days := daysInMonth_le d.year.value d.month.value
  simp only [Day.toDate, Date.dayNumber, daysBeforeYear, daysBeforeEpoch]
  omega

/-- A day not many days from 1970-01-01 lies in a year that can hold timestamps. -/
lemma isYear_ofDayNumber {n : Int} (low : -800001 ≤ n) (high : n ≤ 3000001) :
    isYear (Date.ofDayNumber n).year = true := by
  obtain ⟨after, before⟩ := Date.year_ofDayNumber n
  simp only [daysBeforeEpoch] at after before
  rw [isYear_iff, firstYear, lastYear]
  omega

/-- The instant of a local date and time lies less than two days from its date. -/
lemma isYear_ofLocal {l : Local} (days : -800000 ≤ l.date.dayNumber ∧ l.date.dayNumber ≤ 3000000)
    (clock : l.hour ≤ 23 ∧ l.minute ≤ 59 ∧ l.second ≤ 60)
    (offset : -(secondsPerDay : Int) < l.offset ∧ l.offset < secondsPerDay) :
    isYear (ofLocal l).date.year = true := by
  simp only [secondsPerDay] at offset
  refine isYear_ofDayNumber ?_ ?_
  · simp only [ofLocal, secondsPerDay]
    omega
  · simp only [ofLocal, secondsPerDay]
    omega

/-- The date and time that a spelling says exist if the spelling is valid. -/
lemma Spelling.valid_iff (s : Spelling) :
    s.Valid ↔ s.Readable ∧ s.draft.toLocal.exists = true := by
  rw [Local.exists_iff]
  cases s with
  | date day named =>
    have midnight : 0 ≤ 23 ∧ 0 ≤ 59 ∧ 0 ≤ 60 := by decide
    have utc : -(secondsPerDay : Int) < 0 ∧ (0 : Int) < secondsPerDay := by decide
    constructor
    · intro valid
      refine ⟨trivial, day.exists_iff.2 valid, day.isYear, midnight, utc, ?_⟩
      exact isYear_ofLocal (Day.dayNumber_bounds valid) midnight utc
    · rintro ⟨-, there, -⟩
      exact day.exists_iff.1 there
  | time day separator clock zone =>
    constructor
    · rintro ⟨valid, clock_valid, zone_valid⟩
      obtain ⟨readable, offset⟩ := zone.valid_iff.1 zone_valid
      refine ⟨readable, day.exists_iff.2 valid, day.isYear, clock_valid, offset, ?_⟩
      exact isYear_ofLocal (Day.dayNumber_bounds valid) clock_valid offset
    · rintro ⟨readable, there, -, clock_valid, offset, -⟩
      exact ⟨day.exists_iff.1 there, clock_valid, zone.valid_iff.2 ⟨readable, offset⟩⟩

/-! ## What spellings mean -/

/-- The local time that a spelling says is the instant that it means. -/
lemma Spelling.ofLocal_draft (s : Spelling) : ofLocal s.draft.toLocal = s.instant := by
  cases s with
  | date day named =>
    have seconds : 86400 * day.toDate.dayNumber + 3600 * 0 + 60 * 0 + 0 - 0 =
        86400 * day.toDate.daysFromEpoch := by
      rw [← Date.dayNumber_eq_daysFromEpoch]
      omega
    rw [instant, ← seconds]
    rfl
  | time day separator clock zone =>
    simp only [ofLocal, draft, Draft.toLocal, instant, ← Date.dayNumber_eq_daysFromEpoch]
    rfl

/-- Without its name a distance is not named. -/
lemma Zone.unnamed_ne (z : Zone) : z.unnamed ≠ .named := by
  cases z <;> simp [unnamed]

/-- Without the name of UTC a spelling does not name it. -/
lemma Spelling.plain_unnamed (s : Spelling) : s.unnamed.Plain := by
  cases s with
  | date day named => rfl
  | time day separator clock zone => exact zone.unnamed_ne

/-- The name of UTC makes no difference to whether a spelling is valid. -/
lemma Spelling.valid_unnamed (s : Spelling) : s.unnamed.Valid ↔ s.Valid := by
  cases s with
  | date day named => exact Iff.rfl
  | time day separator clock zone => cases zone <;> exact Iff.rfl

/-- The name of UTC makes no difference to what a spelling means. -/
lemma Spelling.instant_unnamed (s : Spelling) : s.unnamed.instant = s.instant := by
  cases s with
  | date day named => rfl
  | time day separator clock zone => cases zone <;> rfl

/-- No spelling is empty. -/
lemma Spelling.text_ne_nil (s : Spelling) : s.text ≠ [] := by
  obtain ⟨front, c, here, -⟩ := s.ends
  rcases s.text_eq with same | same
  · rw [same, here]
    exact List.append_ne_nil_of_right_ne_nil _ (List.cons_ne_nil _ _)
  · rw [same]
    exact List.append_ne_nil_of_right_ne_nil _ (by decide)

/-- A spelling is read as the instant that it means, if there is one. -/
theorem Spelling.read?_text (s : Spelling) :
    read? s.text = if s.Valid then some s.instant else none := by
  rw [read?, s.withoutZoneName_text, findSome?_patterns s.plain_unnamed]
  by_cases valid : s.Valid
  · obtain ⟨readable, there⟩ := s.unnamed.valid_iff.1 (s.valid_unnamed.2 valid)
    rw [if_pos valid, if_pos readable, ofLocal?, if_pos there, ofLocal_draft, instant_unnamed]
  · rw [if_neg valid]
    by_cases readable : s.unnamed.Readable
    · have missing : ¬ s.unnamed.draft.toLocal.exists = true := by
        intro there
        exact valid (s.valid_unnamed.1 (s.unnamed.valid_iff.2 ⟨readable, there⟩))
      rw [if_pos readable, ofLocal?, if_neg missing]
    · rw [if_neg readable]

/-- A leap second counts as the second before it, with more nanoseconds than a second has. -/
example : read? "2016-12-31 23:59:60.5+00".toList = some ⟨1483228799, 1500000000⟩ := by decide

/-- A spelling is coerced to the instant that it means, and to an error if there is no such date,
time of day or distance from UTC. So all spellings of an instant are coerced alike. -/
theorem Spelling.coerce_text (s : Spelling) :
    (Coercion.coerce .timestamp (String.ofList s.text) =
      if s.Valid then .ok (.timestamp (some s.instant)) else .error .notATimestamp) ∧
    ∀ s' : Spelling, s.Valid → s'.Valid → s.instant = s'.instant →
      Coercion.coerce .timestamp (String.ofList s.text) =
        Coercion.coerce .timestamp (String.ofList s'.text) := by
  have coerced (s : Spelling) : Coercion.coerce .timestamp (String.ofList s.text) =
      if s.Valid then .ok (.timestamp (some s.instant)) else .error .notATimestamp := by
    have some_text : String.ofList s.text ≠ "" := by
      intro no_text
      have empty := congrArg String.toList no_text
      rw [String.toList_ofList] at empty
      exact s.text_ne_nil empty
    rw [Coercion.coerce, if_neg some_text, Coercion.timestampOf, String.toList_ofList, read?_text]
    by_cases valid : s.Valid
    · rw [if_pos valid, if_pos valid]
      rfl
    · rw [if_neg valid, if_neg valid]
      rfl
  refine ⟨coerced s, fun s' valid valid' same => ?_⟩
  rw [coerced s, coerced s', if_pos valid, if_pos valid', same]

end MetadataGateway.Timestamp
