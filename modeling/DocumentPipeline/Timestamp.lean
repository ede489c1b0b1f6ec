/-!
Points in time as seconds since 1970 and nanoseconds, and their reading as calendar times. The
calendar covers the years -262143 to 262142; a nanosecond count from `10 ^ 9` on is a leap second
and belongs to the last second of a minute only.
-/
namespace DocumentPipeline

/-- Seconds since the start of 1970 and nanoseconds, any two numbers of their widths. -/
structure Timestamp where
  seconds : Int64
  nanos : Int32
  deriving DecidableEq, Inhabited

/-- A time of the calendar: days since 1970-01-01, the second of the day, and nanoseconds. -/
structure Instant where
  day : Int
  second : Nat
  nano : Nat
  deriving DecidableEq

namespace Instant

def secondsPerDay : Nat := 86400

/-- Days from 1970-01-01 to a date. Years are counted from March, in cycles of 400. -/
def dayNumber (year : Int) (month day : Nat) : Int :=
  let y := if month ≤ 2 then year - 1 else year
  let cycle := y / 400
  let yearOfCycle := y % 400
  let dayOfYear := (153 * ((month + 9) % 12) + 2) / 5 + (day - 1)
  cycle * 146097 + yearOfCycle * 365 + yearOfCycle / 4 - yearOfCycle / 100 + dayOfYear - 719468

def firstDay : Int := dayNumber (-262143) 1 1

def lastDay : Int := dayNumber 262142 12 31

/-- The calendar time at a count of seconds since 1970, if the calendar has one. -/
def ofUnix? (seconds : Int) (nano : Nat) : Option Instant :=
  let day := seconds / secondsPerDay
  let second := (seconds % secondsPerDay).toNat
  if firstDay ≤ day ∧ day ≤ lastDay ∧
      (nano < 1000000000 ∨ nano < 2000000000 ∧ second % 60 = 59) then
    some ⟨day, second, nano⟩
  else none

def unixSeconds (t : Instant) : Int := t.day * secondsPerDay + t.second

/-- Year, month and day of a day number. -/
def date (day : Int) : Int × Nat × Nat :=
  let z := day + 719468
  let cycle := z / 146097
  let dayOfCycle := (z % 146097).toNat
  let yearOfCycle :=
    (dayOfCycle - dayOfCycle / 1460 + dayOfCycle / 36524 - dayOfCycle / 146096) / 365
  let dayOfYear := dayOfCycle - (365 * yearOfCycle + yearOfCycle / 4 - yearOfCycle / 100)
  let shifted := (5 * dayOfYear + 2) / 153
  let month := if shifted < 10 then shifted + 3 else shifted - 9
  let year : Int := yearOfCycle + cycle * 400
  (if month ≤ 2 then year + 1 else year, month, dayOfYear - (153 * shifted + 2) / 5 + 1)

/-- A number filled up with zeros on the left. -/
def padded (width n : Nat) : List Char :=
  let digits := Nat.toDigits 10 n
  List.replicate (width - digits.length) '0' ++ digits

/-- Four digits from year 0 to 9999; other years have a sign. -/
def yearText (year : Int) : List Char :=
  if 0 ≤ year ∧ year ≤ 9999 then padded 4 year.toNat
  else (if year < 0 then '-' else '+') :: padded 4 year.natAbs

/-- The fraction of a second in thousandths, millionths or billionths, whichever is exact first. -/
def fractionText (nano : Nat) : List Char :=
  if nano = 0 then []
  else if nano % 1000000 = 0 then '.' :: padded 3 (nano / 1000000)
  else if nano % 1000 = 0 then '.' :: padded 6 (nano / 1000)
  else '.' :: padded 9 nano

/-- Date and time in UTC; a leap second is the sixtieth of its minute. -/
def text (t : Instant) : String :=
  let (year, month, day) := date t.day
  let leap := if 1000000000 ≤ t.nano then 1 else 0
  String.ofList <|
    yearText year ++ '-' :: padded 2 month ++ '-' :: padded 2 day ++
      'T' :: padded 2 (t.second / 3600) ++ ':' :: padded 2 (t.second / 60 % 60) ++
      ':' :: padded 2 (t.second % 60 + leap) ++ fractionText (t.nano % 1000000000) ++ ['Z']

end Instant

namespace Timestamp

/-- The time at a count of milliseconds; the nanoseconds are never negative. -/
def ofMillis (millis : Int64) : Timestamp :=
  ⟨Int64.ofInt (millis.toInt / 1000), Int32.ofInt (millis.toInt % 1000 * 1000000)⟩

/-- The calendar time, if the calendar has it; negative nanoseconds count as zero. -/
def toInstant? (t : Timestamp) : Option Instant :=
  Instant.ofUnix? t.seconds.toInt t.nanos.toInt.toNat

def ofInstant (t : Instant) : Timestamp :=
  ⟨Int64.ofInt t.unixSeconds, Int32.ofInt t.nano⟩

/-- The calendar time, or else seconds and nanoseconds as they are. -/
def text (t : Timestamp) : String :=
  match t.toInstant? with
  | some instant => instant.text
  | none =>
    let nanos := t.nanos.toInt
    let fraction :=
      if nanos < 0 then '-' :: Instant.padded 8 nanos.natAbs else Instant.padded 9 nanos.natAbs
    toString t.seconds.toInt ++ "." ++ String.ofList fraction

/-- Earlier seconds come first, then fewer nanoseconds. -/
def compare (a b : Timestamp) : Ordering :=
  (Ord.compare a.seconds.toInt b.seconds.toInt).then (Ord.compare a.nanos.toInt b.nanos.toInt)

end Timestamp
end DocumentPipeline
