import DocumentPipeline.Timestamp
import Mathlib.Algebra.Group.Int.Defs

/-!
# Timestamps of whole milliseconds

A count of milliseconds may be any number of 64 bits, and those of times before 1970 are negative.
The seconds of its timestamp are rounded down, so that the nanoseconds never are negative and
timestamps are in the order of the counts. In the words of a machine, whose division rounds towards
zero, this takes several steps, and each of them has to fit in its word.

* `fitted?`, `floorDivide?`: steps in words of a given size, which give no result if they overflow;
* `floorDivide?_eq`: by a positive divisor none does;
* `Timestamp.ofMillisInWords?_eq`: nor does one on the way from milliseconds to their timestamp;
* `Timestamp.AtMillis`: what the timestamp of a count of milliseconds must be;
* `Timestamp.ofMillis_eq_iff`: it is that, and nothing else is;
* `Timestamp.compare_eq_lt_iff`: timestamps that keep within their second are in the order of time;
* `Timestamp.ofMillis_exact_in_order`: the three facts about a count of milliseconds.
-/

namespace DocumentPipeline

/-- The numbers that words of a size have, one bit being the sign. -/
def Fits (bits : Nat) (n : Int) : Prop :=
  -2 ^ (bits - 1) ≤ n ∧ n < 2 ^ (bits - 1)

instance (bits : Nat) (n : Int) : Decidable (Fits bits n) :=
  inferInstanceAs (Decidable (_ ∧ _))

/-- The result of a step in words of a size. A number that does not fit overflows. -/
def fitted? (bits : Nat) (n : Int) : Option Int :=
  if Fits bits n then some n else none

/-- Quotient and remainder by a positive divisor, the quotient rounded down. Both come from division
rounded towards zero, and are mended if its remainder is negative. -/
def floorDivide? (bits : Nat) (n d : Int) : Option (Int × Int) := do
  let quotient ← fitted? bits (n.tdiv d)
  let remainder ← fitted? bits (n.tmod d)
  if remainder < 0 then
    return (← fitted? bits (quotient - 1), ← fitted? bits (remainder + d))
  else
    return (quotient, remainder)

section
variable {bits : Nat} {n d : Int}

theorem fitted?_eq (fits : Fits bits n) : fitted? bits n = some n :=
  if_pos fits

/-- Numbers between two that fit do so as well. -/
theorem Fits.between {low high : Int} (lower : Fits bits low) (upper : Fits bits high)
    (above : low ≤ n) (below : n ≤ high) : Fits bits n :=
  ⟨Int.le_trans lower.1 above, Int.lt_of_le_of_lt below upper.2⟩

theorem fits_zero : Fits bits 0 := by
  have positive : (0 : Int) < 2 ^ (bits - 1) := Int.pow_pos (by decide)
  exact ⟨by omega, positive⟩

/-- A quotient fits where the number does: it is no further from zero, also when rounded down. -/
theorem Fits.ediv (fits : Fits bits n) (positive : 0 < d) : Fits bits (n / d) := by
  by_cases negative : n < 0
  · have shrinks : n ≤ n / d := by
      apply Int.le_ediv_of_mul_le positive
      have := Int.mul_le_mul_of_nonpos_left (Int.le_of_lt negative) (show 1 ≤ d by omega)
      omega
    have below : n / d < 0 := Int.ediv_neg_of_neg_of_pos negative positive
    exact fits.between fits_zero shrinks (Int.le_of_lt below)
  · have above : 0 ≤ n / d := Int.ediv_nonneg (by omega) (Int.le_of_lt positive)
    exact fits_zero.between fits above (Int.ediv_le_self d (by omega))

theorem Fits.emod (divisor : Fits bits d) (positive : 0 < d) : Fits bits (n % d) :=
  fits_zero.between divisor (Int.emod_nonneg n (Int.ne_of_gt positive))
    (Int.le_of_lt (Int.emod_lt_of_pos n positive))

/-- Rounding towards zero is rounding down unless it leaves a negative remainder. -/
theorem tdiv_tmod_eq (positive : 0 < d) (whole : 0 ≤ n.tmod d) :
    n.tdiv d = n / d ∧ n.tmod d = n % d := by
  have below : n.tmod d < d := Int.tmod_lt_of_pos n positive
  have sum_eq : n.tmod d + d * n.tdiv d = n := Int.tmod_add_mul_tdiv n d
  obtain ⟨quotient_eq, remainder_eq⟩ := (Int.ediv_emod_unique positive).2 ⟨sum_eq, whole, below⟩
  exact ⟨quotient_eq.symm, remainder_eq.symm⟩

/-- A negative remainder lacks one divisor, and the quotient has one too much. -/
theorem tdiv_tmod_eq_of_neg (positive : 0 < d) (negative : n.tmod d < 0) :
    n.tdiv d - 1 = n / d ∧ n.tmod d + d = n % d := by
  have above : -d < n.tmod d := Int.lt_tmod_of_pos n positive
  have sum_eq : n.tmod d + d + d * (n.tdiv d - 1) = n := by
    have := Int.tmod_add_mul_tdiv n d
    rw [Int.mul_sub]
    omega
  obtain ⟨quotient_eq, remainder_eq⟩ :=
    (Int.ediv_emod_unique positive).2 ⟨sum_eq, by omega, by omega⟩
  exact ⟨quotient_eq.symm, remainder_eq.symm⟩

/-- **No step overflows** in dividing a word by a positive one. -/
theorem floorDivide?_eq (fits : Fits bits n) (divisor : Fits bits d) (positive : 0 < d) :
    floorDivide? bits n d = some (n / d, n % d) := by
  have quotient : Fits bits (n / d) := fits.ediv positive
  have remainder : Fits bits (n % d) := divisor.emod positive
  unfold floorDivide?
  by_cases negative : n.tmod d < 0
  · obtain ⟨quotient_eq, remainder_eq⟩ := tdiv_tmod_eq_of_neg positive negative
    have before : n < 0 := Int.not_le.1 fun after =>
      Int.not_le.2 negative (Int.tmod_nonneg d after)
    -- What comes before mending has to fit on its own: the quotient lies between the mended one and
    -- zero, the remainder between `-d` and zero.
    have towardsZero : Fits bits (n.tdiv d) := by
      have below : n / d < 0 := Int.ediv_neg_of_neg_of_pos before positive
      exact quotient.between fits_zero (by omega) (by omega)
    have missing : Fits bits (n.tmod d) := by
      have above : -d < n.tmod d := Int.lt_tmod_of_pos n positive
      have := divisor.2
      exact ⟨by omega, Int.lt_trans negative (Int.pow_pos (by decide))⟩
    simp only [fitted?_eq towardsZero, fitted?_eq missing, Option.bind_eq_bind, Option.bind_some,
      if_pos negative, quotient_eq, remainder_eq, fitted?_eq quotient, fitted?_eq remainder,
      Option.pure_def]
  · obtain ⟨quotient_eq, remainder_eq⟩ := tdiv_tmod_eq positive (Int.not_lt.1 negative)
    simp only [Option.bind_eq_bind, quotient_eq, remainder_eq, fitted?_eq quotient,
      fitted?_eq remainder, Option.bind_some, Option.pure_def]
    rw [if_neg (remainder_eq ▸ negative)]

end

namespace Timestamp
variable {ts earlier later : Timestamp} {millis : Int}

/-- The timestamp of a count of milliseconds in words of 64 bits, a step at a time. The nanoseconds
end up in a word of 32 bits. -/
def ofMillisInWords? (millis : Int64) : Option Timestamp := do
  let (seconds, rest) ← floorDivide? 64 millis.toInt 1000
  let nanos ← fitted? 64 (rest * 1000000)
  return ⟨Int64.ofInt seconds, Int32.ofInt (← fitted? 32 nanos)⟩

/-- **No step overflows** on the way from milliseconds to their timestamp. -/
theorem ofMillisInWords?_eq (millis : Int64) :
    ofMillisInWords? millis = some (ofMillis millis) := by
  have divided : floorDivide? 64 millis.toInt 1000 =
      some (millis.toInt / 1000, millis.toInt % 1000) :=
    floorDivide?_eq ⟨millis.le_toInt, millis.toInt_lt⟩ (by decide) (by decide)
  have wide : Fits 64 (millis.toInt % 1000 * 1000000) := ⟨by omega, by omega⟩
  have narrow : Fits 32 (millis.toInt % 1000 * 1000000) := ⟨by omega, by omega⟩
  unfold ofMillisInWords? ofMillis
  simp only [divided, fitted?_eq wide, fitted?_eq narrow, Option.bind_eq_bind, Option.bind_some,
    Option.pure_def]

/-- The nanoseconds are a part of a second. -/
structure WithinSecond (ts : Timestamp) : Prop where
  notNegative : 0 ≤ ts.nanos.toInt
  nanos_lt : ts.nanos.toInt < 1000000000

/-- Nanoseconds since the start of 1970, those of the seconds included. -/
def sinceEpoch (ts : Timestamp) : Int :=
  ts.seconds.toInt * 1000000000 + ts.nanos.toInt

/-- **Timestamps that keep within their second** are in the order of time. -/
theorem compare_eq_lt_iff (a : earlier.WithinSecond) (b : later.WithinSecond) :
    earlier.compare later = .lt ↔ earlier.sinceEpoch < later.sinceEpoch := by
  obtain ⟨earlier_notNegative, earlier_nanos_lt⟩ := a
  obtain ⟨later_notNegative, later_nanos_lt⟩ := b
  unfold compare sinceEpoch
  rw [Ordering.then_eq_lt, Int.compare_eq_lt, Int.compare_eq_eq, Int.compare_eq_lt]
  omega

/-- A timestamp at a count of milliseconds: its nanoseconds are a part of a second and whole
milliseconds, and with its seconds they make up the count. -/
structure AtMillis (ts : Timestamp) (millis : Int) : Prop extends ts.WithinSecond where
  whole : 1000000 ∣ ts.nanos.toInt
  sum_eq : ts.seconds.toInt * 1000 + ts.nanos.toInt / 1000000 = millis

theorem AtMillis.sinceEpoch_eq (h : ts.AtMillis millis) : ts.sinceEpoch = millis * 1000000 := by
  have whole := h.whole
  have sum_eq := h.sum_eq
  unfold sinceEpoch
  omega

/-- **The timestamp of a count of milliseconds** is at that count, and no other timestamp is. -/
theorem ofMillis_eq_iff (millis : Int64) : ofMillis millis = ts ↔ ts.AtMillis millis.toInt := by
  obtain ⟨seconds, nanos⟩ := ts
  have lower := millis.le_toInt
  have upper := millis.toInt_lt
  have seconds_eq : (Int64.ofInt (millis.toInt / 1000)).toInt = millis.toInt / 1000 :=
    Int64.toInt_ofInt_of_le (by omega) (by omega)
  have nanos_eq : (Int32.ofInt (millis.toInt % 1000 * 1000000)).toInt =
      millis.toInt % 1000 * 1000000 :=
    Int32.toInt_ofInt_of_le (by omega) (by omega)
  rw [ofMillis, mk.injEq, ← Int64.toInt_inj, ← Int32.toInt_inj, seconds_eq, nanos_eq]
  constructor
  · rintro ⟨seconds_eq, nanos_eq⟩
    refine ⟨⟨?_, ?_⟩, ?_, ?_⟩ <;> dsimp only <;> omega
  · rintro ⟨⟨notNegative, nanos_lt⟩, whole, sum_eq⟩
    dsimp only at notNegative nanos_lt whole sum_eq
    omega

example : ofMillis Int64.minValue = ⟨-9223372036854776, 192000000⟩ := by decide

/-- Counts of milliseconds and their timestamps are in the same order, before 1970 as well. -/
theorem lt_iff_compare_ofMillis (a b : Int64) :
    a < b ↔ (ofMillis a).compare (ofMillis b) = .lt := by
  have first := (ofMillis_eq_iff a).1 rfl
  have second := (ofMillis_eq_iff b).1 rfl
  rw [compare_eq_lt_iff first.toWithinSecond second.toWithinSecond, first.sinceEpoch_eq,
    second.sinceEpoch_eq, Int64.lt_iff_toInt_lt]
  omega

/-- **Every count of milliseconds** has its timestamp: no step to it overflows, it is the one
timestamp at that count, and an earlier count has an earlier timestamp. -/
theorem ofMillis_exact_in_order (millis : Int64) :
    ofMillisInWords? millis = some (ofMillis millis) ∧
      (∀ ts, ofMillis millis = ts ↔ ts.AtMillis millis.toInt) ∧
      ∀ other : Int64, millis < other ↔ (ofMillis millis).compare (ofMillis other) = .lt :=
  ⟨ofMillisInWords?_eq millis, fun _ => ofMillis_eq_iff millis, lt_iff_compare_ofMillis millis⟩

end Timestamp
end DocumentPipeline
