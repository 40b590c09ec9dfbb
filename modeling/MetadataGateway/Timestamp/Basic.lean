import MetadataGateway.Calendar

/-!
# Timestamps

A timestamp is an instant in seconds and nanoseconds since 1970-01-01T00:00:00Z. A leap second has
no number of its own among the seconds: it is the second before it with a thousand million
nanoseconds more. A timestamp is written in UTC, with as many groups of three fraction digits as it
needs.
-/

namespace MetadataGateway

open Calendar

/-- An instant. -/
structure Timestamp where
  /-- Seconds since 1970-01-01T00:00:00Z, leap seconds not counted. -/
  seconds : Int
  /-- Nanoseconds behind that second; a thousand million and more in a leap second. -/
  nanos : Nat
deriving DecidableEq, Repr

namespace Timestamp

/-- The seconds of a day. -/
def secondsPerDay : Nat := 86400

/-- The nanoseconds of a second. -/
def nanosPerSecond : Nat := 1000000000

/-- The first and the last year that a timestamp can lie in. -/
def firstYear : Int := -262143

@[inherit_doc firstYear]
def lastYear : Int := 262142

/-- A local date and time of day with its distance from UTC, as it is written down. -/
structure Local where
  date : Date
  hour : Nat
  minute : Nat
  /-- 60 in a leap second. -/
  second : Nat
  /-- The fraction of the second. -/
  nanos : Nat
  /-- The seconds by which the local time is ahead of UTC. -/
  offset : Int
deriving DecidableEq, Repr

/-- Whether a year can hold timestamps. -/
def isYear (year : Int) : Bool :=
  firstYear ≤ year && year ≤ lastYear

/-- The instant of a local date and time, without asking whether there is such a time. -/
def ofLocal (l : Local) : Timestamp :=
  { seconds := secondsPerDay * l.date.dayNumber + 3600 * l.hour + 60 * l.minute + min l.second 59
      - l.offset
    nanos := l.nanos + if l.second = 60 then nanosPerSecond else 0 }

/-- The date of an instant in UTC. -/
def date (t : Timestamp) : Date :=
  Date.ofDayNumber (t.seconds / secondsPerDay)

/-- Whether there is such a local date and time, and its instant can be represented. -/
def Local.exists (l : Local) : Bool :=
  l.date.exists && isYear l.date.year && l.hour ≤ 23 && l.minute ≤ 59 && l.second ≤ 60
    && -(secondsPerDay : Int) < l.offset && l.offset < secondsPerDay
    && isYear (ofLocal l).date.year

/-- The instant of a local date and time, if there is one. -/
def ofLocal? (l : Local) : Option Timestamp :=
  if l.exists then some (ofLocal l) else none

/-- A number in at least `width` digits. -/
def padded (width n : Nat) : List Char :=
  let digits := Nat.toDigits 10 n
  List.replicate (width - digits.length) '0' ++ digits

/-- A year in four digits, or with a sign when it is none of 0 to 9999. -/
def renderYear (year : Int) : List Char :=
  if 0 ≤ year && year ≤ 9999 then padded 4 year.toNat
  else (if year < 0 then '-' else '+') :: padded 4 year.natAbs

/-- A fraction of a second in the shortest of 0, 3, 6 and 9 digits. -/
def renderFraction (nanos : Nat) : List Char :=
  if nanos = 0 then []
  else if nanos % 1000000 = 0 then '.' :: padded 3 (nanos / 1000000)
  else if nanos % 1000 = 0 then '.' :: padded 6 (nanos / 1000)
  else '.' :: padded 9 nanos

/-- A timestamp as date and time of day in UTC. -/
def render (t : Timestamp) : List Char :=
  let d := t.date
  let inDay := (t.seconds % secondsPerDay).toNat
  let leap := nanosPerSecond ≤ t.nanos
  let second := if leap then inDay % 60 + 1 else inDay % 60
  let nanos := if leap then t.nanos - nanosPerSecond else t.nanos
  renderYear d.year ++ '-' :: padded 2 d.month ++ '-' :: padded 2 d.day
    ++ 'T' :: padded 2 (inDay / 3600) ++ ':' :: padded 2 (inDay / 60 % 60)
    ++ ':' :: padded 2 second ++ renderFraction nanos ++ ['Z']

end Timestamp

end MetadataGateway
