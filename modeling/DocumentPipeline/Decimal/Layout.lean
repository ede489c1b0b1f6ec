import DocumentPipeline.Decimal.Shortest

/-!
Ways of writing a double: the digits are always the shortest that read back, and a `Layout` fixes
where positional notation ends and how whole numbers and exponents are marked.
-/
namespace DocumentPipeline

/-- How a double is laid out around its shortest digits. -/
structure Layout where
  /-- The leading exponents that are written positionally. -/
  positional : Int → Bool
  /-- Whole numbers end in `.0`. -/
  wholeMark : Bool
  /-- A positive exponent carries its sign. -/
  plusSign : Bool
  tie : Decimal.Tie

namespace Layout

/-- Plain numbers: positional at every size, whole numbers without a point. -/
def plain : Layout := ⟨fun _ => true, false, false, .up⟩

/-- Elements of a vector: positional from `0.0001` to below `10 ^ 16`, whole numbers marked. -/
def element : Layout := ⟨fun e => -4 ≤ e && e ≤ 15, true, false, .up⟩

/-- Numbers in a JSON text: positional from `0.00001` to below `10 ^ 16`, whole numbers marked,
exponents signed. -/
def json : Layout := ⟨fun e => -5 ≤ e && e ≤ 15, true, true, .even⟩

def zeros (n : Nat) : List Char := List.replicate n '0'

/-- A decimal in positional notation. -/
def writePositional (wholeMark : Bool) (d : Decimal) : List Char :=
  let whole := (d.exponent + 1).toNat
  if d.exponent < 0 then ['0', '.'] ++ zeros (-d.exponent - 1).toNat ++ d.digits
  else if d.digits.length ≤ whole then
    d.digits ++ zeros (whole - d.digits.length) ++ if wholeMark then ['.', '0'] else []
  else d.digits.take whole ++ '.' :: d.digits.drop whole

/-- A decimal as leading digit, further digits and exponent. -/
def writeScientific (plusSign : Bool) (d : Decimal) : List Char :=
  let tail := match d.digits.drop 1 with
    | [] => []
    | more => '.' :: more
  let sign := if d.exponent < 0 then ['-'] else if plusSign then ['+'] else []
  d.digits.take 1 ++ tail ++ 'e' :: sign ++ Nat.toDigits 10 d.exponent.natAbs

/-- The text of a double. -/
def write (l : Layout) (x : Double) : String :=
  if x.isNaN then "NaN"
  else
    let body :=
      if !x.isFinite then ['i', 'n', 'f']
      else if x.isZero then if l.wholeMark then ['0', '.', '0'] else ['0']
      else
        let d := Decimal.shortest l.tie x
        if l.positional d.exponent then writePositional l.wholeMark d
        else writeScientific l.plusSign d
    String.ofList (if x.isNegative then '-' :: body else body)

end Layout
end DocumentPipeline
