import DocumentPipeline.Double

/-!
The shortest decimal that reads back as a given double. A decimal of `n` digits near a number lies
on a grid; the first grid with a point in the rounding interval of the double gives the digits, and
of two such points the nearer is taken.
-/
namespace DocumentPipeline

/-- Decimal digits `d₁ d₂ … dₙ` of the number `d₁.d₂…dₙ * 10 ^ exponent`. -/
structure Decimal where
  digits : List Char
  exponent : Int
  deriving DecidableEq

namespace Decimal

/-- Which of two decimals at the same distance is taken. -/
inductive Tie where
  | up
  | even
  deriving DecidableEq

/-- The exponent of the leading decimal digit of a positive double. -/
def leadingExponent (x : Double) : Int :=
  let (num, den) := x.ratio
  ((Nat.toDigits 10 (num * Nat.pow 10 342 / den)).length : Int) - 343

/-- A positive double measured against a decimal step: `value / step` and the ends of the rounding
interval, all in units of `1 / step`. -/
structure Measure where
  value : Nat
  low : Nat
  high : Nat
  step : Nat
  closed : Bool

/-- Measures a double against the step `10 ^ p`. The interval reaches halfway to both neighbours;
below a power of two the lower neighbour is half as far. Its ends belong to it when the significand
is even. -/
def Measure.of (x : Double) (p : Int) : Measure :=
  let unit := Nat.pow 10 (-p).toNat <<< (x.exponent - 2).toNat
  let value := 4 * x.significand * unit
  let below := if x.fraction = 0 && 1 < x.exponentField then unit else 2 * unit
  { value, low := value - below, high := value + 2 * unit,
    step := Nat.pow 10 p.toNat <<< (2 - x.exponent).toNat, closed := x.significand % 2 == 0 }

def Measure.admits (m : Measure) (point : Nat) : Bool :=
  let n := point * m.step
  if m.closed then m.low ≤ n && n ≤ m.high else m.low < n && n < m.high

/-- The grid point that stands for the double, if one of its two neighbours on the grid does. -/
def Measure.point? (m : Measure) (tie : Tie) : Option Nat :=
  let down := m.value / m.step
  let up := down + 1
  match m.admits down, m.admits up with
  | false, false => none
  | true, false => some down
  | false, true => some up
  | true, true =>
    let below := m.value - down * m.step
    let above := up * m.step - m.value
    if below < above then some down
    else if above < below then some up
    else match tie with
      | .up => some up
      | .even => some (if down % 2 = 0 then down else up)

/-- The digits of a grid point without the zeros at its end. -/
def ofPoint (point : Nat) (p : Int) : Decimal :=
  let written := Nat.toDigits 10 point
  let kept := (written.reverse.dropWhile (· == '0')).reverse
  ⟨kept, written.length - 1 + p⟩

/-- The shortest decimal that reads back as `x`, a positive double; seventeen digits always do. -/
def shortest (tie : Tie) (x : Double) : Decimal :=
  let lead := leadingExponent x
  let attempt (n : Nat) : Option Decimal :=
    let p := lead - n
    ((Measure.of x p).point? tie).map (ofPoint · p)
  ((List.range 17).findSome? attempt).getD ⟨['0'], 0⟩

end Decimal
end DocumentPipeline
