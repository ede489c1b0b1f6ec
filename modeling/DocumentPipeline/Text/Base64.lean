/-!
Base 64 with padding. Reading accepts exactly what writing produces: the alphabet of letters,
digits, `+` and `/`, full groups of four, and no bits left over in a padded group.
-/
namespace DocumentPipeline.Text.Base64

def alphabet : List Char :=
  "ABCDEFGHIJKLMNOPQRSTUVWXYZabcdefghijklmnopqrstuvwxyz0123456789+/".toList

/-- The sign of a number below sixty-four. -/
def sign (n : Nat) : Char := alphabet.getD n 'A'

def value? (c : Char) : Option Nat :=
  if 'A' ≤ c ∧ c ≤ 'Z' then some (c.toNat - 65)
  else if 'a' ≤ c ∧ c ≤ 'z' then some (c.toNat - 71)
  else if '0' ≤ c ∧ c ≤ '9' then some (c.toNat + 4)
  else if c = '+' then some 62
  else if c = '/' then some 63
  else none

def encodeBytes : List UInt8 → List Char
  | [] => []
  | [a] =>
    let n := a.toNat * 16
    [sign (n / 64), sign (n % 64), '=', '=']
  | [a, b] =>
    let n := (a.toNat * 256 + b.toNat) * 4
    [sign (n / 4096), sign (n / 64 % 64), sign (n % 64), '=']
  | a :: b :: c :: rest =>
    let n := (a.toNat * 256 + b.toNat) * 256 + c.toNat
    sign (n / 262144) :: sign (n / 4096 % 64) :: sign (n / 64 % 64) :: sign (n % 64) ::
      encodeBytes rest

def encode (bytes : List UInt8) : String :=
  String.ofList (encodeBytes bytes)

/-- Reads groups of four signs; only the last group may be padded. -/
def decodeChars : List Char → Option (List UInt8)
  | [] => some []
  | [a, b, '=', '='] => do
    let n := 64 * (← value? a) + (← value? b)
    if n % 16 = 0 then some [UInt8.ofNat (n / 16)] else none
  | [a, b, c, '='] => do
    let n := 4096 * (← value? a) + 64 * (← value? b) + (← value? c)
    if n % 4 = 0 then some [UInt8.ofNat (n / 1024), UInt8.ofNat (n / 4 % 256)] else none
  | a :: b :: c :: d :: rest => do
    let n := 262144 * (← value? a) + 4096 * (← value? b) + 64 * (← value? c) + (← value? d)
    let more ← decodeChars rest
    return UInt8.ofNat (n / 65536) :: UInt8.ofNat (n / 256 % 256) :: UInt8.ofNat (n % 256) :: more
  | _ => none

def decode (s : String) : Option (List UInt8) :=
  decodeChars s.toList

end DocumentPipeline.Text.Base64
