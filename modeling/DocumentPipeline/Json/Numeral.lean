import DocumentPipeline.Double

/-!
Numerals of JSON texts and their values. A numeral without fraction and exponent is an integer as
long as it fits 64 bits. Any other is read as a whole number of at most 64 bits, which takes as
many of the digits as fit, times a power of ten; the product or quotient is rounded once more.
-/
namespace DocumentPipeline.Json

/-- A number as a JSON text gives it. -/
inductive Number where
  | int (value : Int)
  | double (value : Double)
  deriving DecidableEq

/-- The parts of a numeral, digits in writing order. -/
structure Numeral where
  negative : Bool
  whole : List Char
  fraction : List Char
  /-- The sign and the digits after `e`. -/
  exponent : Option (Bool × List Char)

namespace Numeral

def digitValue (c : Char) : Nat := c.toNat - '0'.toNat

/-- The number that decimal digits spell. -/
def value (digits : List Char) : Nat :=
  digits.foldl (fun n c => 10 * n + digitValue c) 0

/-- Splits off a sign and digits after an exponent mark. -/
def exponentPart? : List Char → Option (Option (Bool × List Char))
  | [] => some none
  | mark :: rest =>
    if mark = 'e' ∨ mark = 'E' then
      let (negative, digits) := match rest with
        | '+' :: digits => (false, digits)
        | '-' :: digits => (true, digits)
        | digits => (false, digits)
      if digits ≠ [] ∧ digits.all Char.isDigit then some (some (negative, digits)) else none
    else none

/-- Reads a whole word as a numeral: no leading zeros, digits on both sides of a point and after an
exponent mark. -/
def ofChars? (word : List Char) : Option Numeral := do
  let (negative, rest) := match word with
    | '-' :: rest => (true, rest)
    | rest => (false, rest)
  let whole := rest.takeWhile Char.isDigit
  let rest := rest.dropWhile Char.isDigit
  guard (whole ≠ [] ∧ (whole.head? = some '0' → whole.length = 1))
  match rest with
  | '.' :: rest =>
    let fraction := rest.takeWhile Char.isDigit
    guard (fraction ≠ [])
    return ⟨negative, whole, fraction, ← exponentPart? (rest.dropWhile Char.isDigit)⟩
  | rest => return ⟨negative, whole, [], ← exponentPart? rest⟩

/-- Appends digits to a number as long as it stays within 64 bits; the count is of the digits
taken. -/
def takeDigits : Nat → List Char → Nat × Nat
  | n, [] => (n, 0)
  | n, c :: rest =>
    let next := 10 * n + digitValue c
    if next < UInt64.size then
      let (total, taken) := takeDigits next rest
      (total, taken + 1)
    else (n, 0)

def powerOfTen (n : Nat) : Double := Double.ofRatio false (Nat.pow 10 n) 1

/-- `x * 10 ^ exponent`, rounded, unless it leaves the range. Powers below `10 ^ -308` are divided
out in steps. -/
def scale (x : Double) (exponent : Int) : Option Double :=
  if exponent.natAbs ≤ 308 then
    if 0 ≤ exponent then
      let product := x.scaleUp (powerOfTen exponent.natAbs)
      if product.isFinite then some product else none
    else some (x.scaleDown (powerOfTen exponent.natAbs))
  else if x.isZero then some x
  else if 0 ≤ exponent then none
  else scale (x.scaleDown (powerOfTen 308)) (exponent + 308)
termination_by (-exponent).toNat

/-- The magnitude of a numeral as a double, unless it is out of range. An exponent beyond 32 bits
gives zero if it is negative or there is nothing to scale. -/
def magnitude? (n : Numeral) : Option Double := do
  let (whole, taken) := takeDigits 0 n.whole
  let dropped := n.whole.length - taken
  let (significand, places) := takeDigits whole n.fraction
  let shift : Int := (dropped : Int) - places
  let base := Double.ofInt significand
  match n.exponent with
  | none => scale base shift
  | some (negative, digits) =>
    let e := value digits
    if Int32.maxValue.toInt < e then
      if negative ∨ significand = 0 then some (Double.ofInt 0) else none
    else scale base (if negative then shift - e else shift + e)

/-- The number of a numeral, unless it is out of range. Zero with a minus sign is a double. -/
def number? (n : Numeral) : Option Number :=
  let whole := value n.whole
  let bound := if n.negative then UInt64.size / 2 + 1 else UInt64.size
  if n.fraction = [] ∧ n.exponent = none ∧ whole < bound ∧ (n.negative → whole ≠ 0) then
    some (.int (if n.negative then -whole else whole))
  else
    n.magnitude?.map fun x => .double (if n.negative then x.negate else x)

end Numeral
end DocumentPipeline.Json
