import DocumentPipeline.Timestamp
import Mathlib.Algebra.Group.Int.Defs

/-!
# Timestamps and times of the calendar

A timestamp holds any two numbers, and not all of them are a time that the calendar has. One that is
none should stay what it is, and one that is should be the same timestamp again afterwards. Negative
nanoseconds are the exception: they are taken for zero, which is another time.

* `Instant.InCalendar`: the times that the calendar has;
* `Instant.ofUnix?_eq_some_iff`: what a count of seconds and nanoseconds is taken for;
* `Timestamp.ofInstant_eq_iff`: the timestamp of a time;
* `Timestamp.toInstant?_eq_some_iff`: the time of a timestamp;
* `Timestamp.Lossless`, `Timestamp.Clamped`: timestamps that lose nothing, and those that do;
* `Timestamp.toInstant?_lossless_iff`: there are no others.
-/

namespace DocumentPipeline

namespace Instant

/-- A time that the calendar has: its day is one of the calendar, its second one of the day, and its
nanoseconds stay below one second, or below two where a leap second may be. -/
structure InCalendar (t : Instant) : Prop where
  notBefore : firstDay ≤ t.day
  notAfter : t.day ≤ lastDay
  second_lt : t.second < secondsPerDay
  nano_lt : t.nano < 1000000000 ∨ t.nano < 2000000000 ∧ t.second % 60 = 59

theorem firstDay_eq : firstDay = -96465292 := by decide

theorem lastDay_eq : lastDay = 95026236 := by decide

/-- Day and second of the day are those of the count of seconds. -/
theorem unixSeconds_eq_iff {t : Instant} (second_lt : t.second < secondsPerDay) {seconds : Int} :
    t.unixSeconds = seconds ↔
      t.day = seconds / secondsPerDay ∧ t.second = (seconds % secondsPerDay).toNat := by
  simp only [unixSeconds, secondsPerDay] at second_lt ⊢
  omega

/-- **Seconds and nanoseconds are taken for the time** of the calendar that has just them. -/
theorem ofUnix?_eq_some_iff {seconds : Int} {nano : Nat} {t : Instant} :
    ofUnix? seconds nano = some t ↔ t.InCalendar ∧ t.unixSeconds = seconds ∧ t.nano = nano := by
  obtain ⟨day, second, nano'⟩ := t
  have within : (seconds % secondsPerDay).toNat < secondsPerDay := by
    simp only [secondsPerDay]
    omega
  simp only [ofUnix?, Option.ite_none_right_eq_some, Option.some.injEq, mk.injEq]
  constructor
  · rintro ⟨⟨notBefore, notAfter, nano_lt⟩, rfl, rfl, rfl⟩
    exact ⟨⟨notBefore, notAfter, within, nano_lt⟩, (unixSeconds_eq_iff within).2 ⟨rfl, rfl⟩, rfl⟩
  · rintro ⟨⟨notBefore, notAfter, second_lt, nano_lt⟩, same, rfl⟩
    obtain ⟨rfl, rfl⟩ := (unixSeconds_eq_iff second_lt).1 same
    exact ⟨⟨notBefore, notAfter, nano_lt⟩, rfl, rfl, rfl⟩

namespace InCalendar
variable {t : Instant}

/-- The seconds of the calendar need far less than 64 bits. -/
theorem unixSeconds_bounds (h : t.InCalendar) :
    -2 ^ 63 ≤ t.unixSeconds ∧ t.unixSeconds < 2 ^ 63 := by
  obtain ⟨notBefore, notAfter, second_lt, -⟩ := h
  rw [firstDay_eq] at notBefore
  rw [lastDay_eq] at notAfter
  simp only [unixSeconds, secondsPerDay] at second_lt ⊢
  omega

/-- The nanoseconds of a leap second, too, fit in 32 bits with a sign. -/
theorem nano_bound (h : t.InCalendar) : (t.nano : Int) < 2 ^ 31 := by
  have := h.nano_lt
  omega

end InCalendar
end Instant

namespace Timestamp
variable {ts : Timestamp} {t : Instant}

/-- **The timestamp of a time** has its seconds and its nanoseconds; no bits are lost. -/
theorem ofInstant_eq_iff (h : t.InCalendar) :
    ofInstant t = ts ↔ t.unixSeconds = ts.seconds.toInt ∧ (t.nano : Int) = ts.nanos.toInt := by
  obtain ⟨seconds, nanos⟩ := ts
  obtain ⟨lower, upper⟩ := h.unixSeconds_bounds
  have seconds_eq : (Int64.ofInt t.unixSeconds).toInt = t.unixSeconds :=
    Int64.toInt_ofInt_of_le lower upper
  have nanos_eq : (Int32.ofInt t.nano).toInt = t.nano :=
    Int32.toInt_ofInt_of_le (Int.le_trans (by decide) (Int.natCast_nonneg _)) h.nano_bound
  rw [ofInstant, mk.injEq, ← Int64.toInt_inj, ← Int32.toInt_inj, seconds_eq, nanos_eq]

/-- **The time of a timestamp** has its seconds, and its nanoseconds if they are not negative. -/
theorem toInstant?_eq_some_iff :
    ts.toInstant? = some t ↔
      t.InCalendar ∧ t.unixSeconds = ts.seconds.toInt ∧ t.nano = ts.nanos.toInt.toNat :=
  Instant.ofUnix?_eq_some_iff

/-- Every time of the calendar is found again in its timestamp. -/
theorem toInstant?_ofInstant (h : t.InCalendar) : (ofInstant t).toInstant? = some t := by
  obtain ⟨seconds_eq, nanos_eq⟩ := (ofInstant_eq_iff h).1 rfl
  exact toInstant?_eq_some_iff.2 ⟨h, seconds_eq, by omega⟩

/-- The timestamp of the time that is found is the same again unless the nanoseconds are
negative. -/
theorem ofInstant_of_toInstant? (found : ts.toInstant? = some t) :
    ofInstant t = ts ↔ 0 ≤ ts.nanos.toInt := by
  obtain ⟨inCalendar, seconds_eq, nano_eq⟩ := toInstant?_eq_some_iff.1 found
  rw [ofInstant_eq_iff inCalendar, and_iff_right seconds_eq]
  omega

/-- Seconds and nanoseconds as they are. The nanoseconds have nine places, of which a sign takes
one. -/
def plainText (ts : Timestamp) : String :=
  toString ts.seconds.toInt ++ "." ++ String.ofList
    (if ts.nanos.toInt < 0 then '-' :: Instant.padded 8 ts.nanos.toInt.natAbs
    else Instant.padded 9 ts.nanos.toInt.natAbs)

theorem text_of_none (missing : ts.toInstant? = none) : ts.text = ts.plainText := by
  rw [text, missing, plainText]

/-- A timestamp loses nothing: it is that of the time which it is taken for, and if it is the
timestamp of no time of the calendar, then it is taken for none and written as it is. -/
structure Lossless (ts : Timestamp) : Prop where
  back (t : Instant) : ts.toInstant? = some t → ofInstant t = ts
  missing : (∀ t : Instant, t.InCalendar → ofInstant t ≠ ts) →
    ts.toInstant? = none ∧ ts.text = ts.plainText

/-- Negative nanoseconds at a second that the calendar has. -/
def Clamped (ts : Timestamp) : Prop :=
  ts.nanos.toInt < 0 ∧ ∃ t : Instant, t.InCalendar ∧ t.unixSeconds = ts.seconds.toInt

/-- Negative nanoseconds are taken for the start of their second. -/
theorem Clamped.toInstant? (clamped : ts.Clamped) :
    ∃ t, ts.toInstant? = some t ∧ t.unixSeconds = ts.seconds.toInt ∧ t.nano = 0 := by
  obtain ⟨negative, ⟨day, second, nano⟩, ⟨notBefore, notAfter, second_lt, -⟩, seconds_eq⟩ := clamped
  refine ⟨⟨day, second, 0⟩, toInstant?_eq_some_iff.2 ⟨?_, seconds_eq, ?_⟩, seconds_eq, rfl⟩
  · exact ⟨notBefore, notAfter, second_lt, .inl (show 0 < 1000000000 by decide)⟩
  · change 0 = ts.nanos.toInt.toNat
    omega

theorem lossless_of_back (back : ∀ t, ts.toInstant? = some t → ofInstant t = ts) : ts.Lossless := by
  refine ⟨back, fun none_has => ?_⟩
  have missing : ts.toInstant? = none := by
    cases found : ts.toInstant? with
    | none => rfl
    | some t => exact absurd (back t found) (none_has t (toInstant?_eq_some_iff.1 found).1)
  exact ⟨missing, text_of_none missing⟩

/-- **Nothing is lost** between timestamps and times of the calendar just when the nanoseconds are
not negative or the calendar does not have the second. Otherwise the timestamp is that of no time at
all and is taken for the start of its second. Every time of the calendar is found again in its
timestamp. -/
theorem toInstant?_lossless_iff (ts : Timestamp) :
    (ts.Lossless ↔ ¬ts.Clamped) ∧
      (ts.Clamped → (∀ t : Instant, t.InCalendar → ofInstant t ≠ ts) ∧
        ∃ t, ts.toInstant? = some t ∧ t.unixSeconds = ts.seconds.toInt ∧ t.nano = 0) ∧
      ∀ t : Instant, t.InCalendar → (ofInstant t).toInstant? = some t := by
  refine ⟨⟨fun lossless clamped => ?_, fun kept => lossless_of_back fun t found => ?_⟩,
    fun clamped => ⟨fun t inCalendar same => ?_, clamped.toInstant?⟩,
    fun t inCalendar => toInstant?_ofInstant inCalendar⟩
  · obtain ⟨t, found, -, -⟩ := clamped.toInstant?
    have notNegative := (ofInstant_of_toInstant? found).1 (lossless.back t found)
    have negative := clamped.1
    omega
  · rw [ofInstant_of_toInstant? found]
    obtain ⟨inCalendar, seconds_eq, -⟩ := toInstant?_eq_some_iff.1 found
    exact Int.not_lt.1 fun negative => kept ⟨negative, t, inCalendar, seconds_eq⟩
  · have negative := clamped.1
    have nanos_eq := ((ofInstant_eq_iff inCalendar).1 same).2
    omega

/-- One nanosecond before 1970 begins is taken for the beginning itself. -/
theorem not_toInstant?_lossless :
    ¬∀ (ts : Timestamp) (t : Instant), ts.toInstant? = some t → ofInstant t = ts := by
  intro claim
  have same : ofInstant ⟨0, 0, 0⟩ = ⟨0, -1⟩ := claim ⟨0, -1⟩ ⟨0, 0, 0⟩ (by decide)
  revert same
  decide

end Timestamp
end DocumentPipeline
