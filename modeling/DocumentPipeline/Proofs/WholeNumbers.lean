import DocumentPipeline.Double
import Mathlib.Algebra.Group.Int.Defs
import Mathlib.Algebra.Group.Nat.Defs

/-!
# Doubles of whole numbers

* `isFinite_ofMagnitude`: magnitude bits below those of infinity make a finite double;
* `quotient_lt`: in units of its last place a whole number has at most fifty-four bits;
* `isFinite_ofInt`: the double nearest to a number of 64 bits is finite.
-/

namespace DocumentPipeline.Double

theorem isFinite_ofMagnitude {negative : Bool} {m : Nat} (h : m < 2047 * fractionCount) :
    (ofMagnitude negative m).isFinite = true := by
  have magnitude_eq : (ofMagnitude negative m).magnitude = m := by
    simp only [magnitude, ofMagnitude, signWeight, fractionCount, UInt64.toNat_ofNat'] at h ⊢
    split <;> omega
  simp only [isFinite, exponentField, magnitude_eq, bne_iff_ne]
  exact Nat.ne_of_lt (Nat.div_lt_of_lt_mul (by rwa [Nat.mul_comm]))

theorem lastPlace_le {num : Nat} (h : num < 2 ^ 64) : lastPlace num 1 ≤ 11 := by
  have : num.log2 < 64 := by
    by_cases zero : num = 0
    · simp [zero]
    · exact (Nat.log2_lt zero).2 h
  simp only [lastPlace]
  split <;> simp <;> omega

theorem lastPlace_ge (num : Nat) : (num.log2 : Int) - 53 ≤ lastPlace num 1 := by
  simp only [lastPlace, show Nat.log2 1 = 0 by decide]
  split <;> omega

theorem quotient_lt {num : Nat} {place : Int} (h : (num.log2 : Int) - 53 ≤ place) :
    (num <<< (-place).toNat) / (1 <<< place.toNat) < 2 ^ 54 := by
  have size : num < 2 ^ (num.log2 + 1) := Nat.lt_log2_self
  simp only [Nat.shiftLeft_eq, Nat.one_mul]
  refine Nat.div_lt_of_lt_mul (Nat.lt_of_lt_of_le (Nat.mul_lt_mul_of_pos_right size ?_) ?_)
  · exact Nat.two_pow_pos _
  · rw [← Nat.pow_add, ← Nat.pow_add]
    exact Nat.pow_le_pow_right Nat.two_pos (by omega)

theorem roundQuotient_le (num den : Nat) : roundQuotient num den ≤ num / den + 1 := by
  simp only [roundQuotient]
  split <;> omega

/-- **The double nearest to a number of 64 bits** is finite. -/
theorem isFinite_ofInt {n : Int} (h : n.natAbs < 2 ^ 64) : (ofInt n).isFinite = true := by
  rw [ofInt, ofRatio]
  split
  · exact isFinite_ofMagnitude (by decide)
  · refine isFinite_ofMagnitude (Nat.lt_of_le_of_lt (Nat.min_le_left _ _) ?_)
    have place := lastPlace_le h
    have quotient := quotient_lt (lastPlace_ge n.natAbs)
    have rounded := roundQuotient_le (n.natAbs <<< (-lastPlace n.natAbs 1).toNat)
      (1 <<< (lastPlace n.natAbs 1).toNat)
    simp only [fractionCount]
    omega

end DocumentPipeline.Double
