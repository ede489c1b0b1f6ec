/-!
Binary64 numbers held as bit patterns, so that every statement about them is one about natural
numbers. `Double.ofRatio` is the only place where rounding happens: it takes a ratio to the nearest
double, a tie to the even significand.
-/
namespace DocumentPipeline

/-- A binary64 number: one bit of sign, eleven of exponent, fifty-two of fraction. -/
structure Double where
  bits : UInt64
  deriving DecidableEq, Inhabited

namespace Double

/-- The weight of the bit of the sign. -/
def signWeight : Nat := 0x8000000000000000

/-- The number of fractions, which is the weight of a leading bit before them. -/
def fractionCount : Nat := 0x10000000000000

def isNegative (x : Double) : Bool := signWeight ≤ x.bits.toNat

/-- The bits without the sign, which order the magnitudes. -/
def magnitude (x : Double) : Nat := x.bits.toNat % signWeight

def exponentField (x : Double) : Nat := x.magnitude / fractionCount

def fraction (x : Double) : Nat := x.magnitude % fractionCount

def isFinite (x : Double) : Bool := x.exponentField != 2047

def isNaN (x : Double) : Bool := x.exponentField == 2047 && x.fraction != 0

def isZero (x : Double) : Bool := x.magnitude == 0

/-- A finite double has the magnitude `significand * 2 ^ exponent`. -/
def significand (x : Double) : Nat :=
  if x.exponentField = 0 then x.fraction else x.fraction + fractionCount

def exponent (x : Double) : Int := (max x.exponentField 1 : Nat) - 1075

/-- Numeric equality: NaN differs from itself and the two zeros agree. -/
def equals (x y : Double) : Bool :=
  !x.isNaN && !y.isNaN && (x.bits == y.bits || x.isZero && y.isZero)

/-- A finite number that is not below zero; the negative zero is one. -/
def isFiniteNonnegative (x : Double) : Bool :=
  x.isFinite && (!x.isNegative || x.isZero)

def infinity : Double := ⟨0x7ff0000000000000⟩

/-- The double with the given sign and magnitude bits. -/
def ofMagnitude (negative : Bool) (magnitude : Nat) : Double :=
  ⟨UInt64.ofNat (magnitude + if negative then signWeight else 0)⟩

/-- Numerator and denominator of the magnitude of a finite double. -/
def ratio (x : Double) : Nat × Nat :=
  (x.significand <<< x.exponent.toNat, 1 <<< (-x.exponent).toNat)

/-- The quotient rounded to the nearest integer, a half to the even one. -/
def roundQuotient (num den : Nat) : Nat :=
  let down := num / den
  let twice := 2 * (num % den)
  if den < twice || twice == den && down % 2 == 1 then down + 1 else down

/-- `num / den` in units of `2 ^ q`, as a numerator and a denominator. -/
def inUnits (num den : Nat) (q : Int) : Nat × Nat :=
  (num <<< (-q).toNat, den <<< q.toNat)

/-- The exponent of the last place of the significand that `num / den` rounds to: the quotient in
units of that place has fifty-three bits, fewer only where the subnormal numbers begin. -/
def lastPlace (num den : Nat) : Int :=
  let guess : Int := (num.log2 : Int) - den.log2 - 52
  let (n, d) := inUnits num den guess
  max (if n / d < fractionCount then guess - 1 else guess) (-1074)

/-- The double nearest to `num / den`, ties to the even significand, infinity beyond the range. -/
def ofRatio (negative : Bool) (num den : Nat) : Double :=
  if num = 0 then ofMagnitude negative 0
  else
    let place := lastPlace num den
    let (n, d) := inUnits num den place
    let magnitude := (place + 1074).toNat * fractionCount + roundQuotient n d
    ofMagnitude negative (min magnitude (2047 * fractionCount))

def ofInt (n : Int) : Double := ofRatio (n < 0) n.natAbs 1

def negate (x : Double) : Double := ofMagnitude (!x.isNegative) x.magnitude

/-- The product of two finite doubles without regard to their signs. -/
def scaleUp (x y : Double) : Double :=
  let (a, b) := x.ratio
  let (c, d) := y.ratio
  ofRatio false (a * c) (b * d)

/-- The quotient of two finite doubles without regard to their signs. -/
def scaleDown (x y : Double) : Double :=
  let (a, b) := x.ratio
  let (c, d) := y.ratio
  ofRatio false (a * d) (b * c)

/-- The double with the value of a binary32 number, given by its bits. -/
def ofSingle (bits : UInt32) : Double :=
  let n := bits.toNat
  let negative := decide (0x80000000 ≤ n)
  let field := n / 0x800000 % 256
  let fraction := n % 0x800000
  if field = 255 then ofMagnitude negative (2047 * fractionCount + fraction <<< 29)
  else
    let significand := if field = 0 then fraction else fraction + 0x800000
    let (n, d) := inUnits significand 1 (150 - (max field 1 : Nat))
    ofRatio negative n d

end Double
end DocumentPipeline
