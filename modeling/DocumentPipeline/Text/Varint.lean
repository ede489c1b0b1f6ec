/-!
Numbers in base 128, least digit first; every byte but the last has its high bit set. Reading takes
at most ten bytes and keeps the low 64 bits of the number.
-/
namespace DocumentPipeline.Text.Varint

def encode (n : Nat) : List UInt8 :=
  if n < 128 then [UInt8.ofNat n] else UInt8.ofNat (n % 128 + 128) :: encode (n / 128)
termination_by n

/-- Reads a number of at most `room` bytes: its value and the bytes after it. -/
def digits? : Nat → List UInt8 → Option (Nat × List UInt8)
  | 0, _ => none
  | _, [] => none
  | room + 1, b :: rest =>
    if b < 128 then some (b.toNat, rest)
    else (digits? room rest).map fun (n, after) => (b.toNat - 128 + 128 * n, after)

def decode? (bytes : List UInt8) : Option (Nat × List UInt8) :=
  (digits? 10 bytes).map fun (n, after) => (n % UInt64.size, after)

end DocumentPipeline.Text.Varint
