/-!
UTF-8 with a report of the place where bytes stop being a text. `decode` accepts exactly the
encodings of texts; for all other bytes `Utf8.fault` names the first sequence that is not one
character.
-/
namespace DocumentPipeline.Text.Utf8

/-- The first sequence of bytes that is not a character. -/
structure Fault where
  start : Nat
  /-- How many bytes could have begun a character; none when the bytes end before it does. -/
  length : Option Nat
  deriving DecidableEq

def Fault.message (f : Fault) : String :=
  match f.length with
  | some n => s!"invalid utf-8 sequence of {n} bytes from index {f.start}"
  | none => s!"incomplete utf-8 byte sequence from index {f.start}"

def encode (s : String) : List UInt8 := s.toUTF8.data.toList

/-- The bytes that must follow a leading byte: how many, and the range of the first of them. -/
def following? (lead : UInt8) : Option (Nat × UInt8 × UInt8) :=
  if lead < 0x80 then some (0, 0, 0)
  else if lead < 0xC2 then none
  else if lead < 0xE0 then some (1, 0x80, 0xBF)
  else if lead = 0xE0 then some (2, 0xA0, 0xBF)
  else if lead = 0xED then some (2, 0x80, 0x9F)
  else if lead < 0xF0 then some (2, 0x80, 0xBF)
  else if lead = 0xF0 then some (3, 0x90, 0xBF)
  else if lead < 0xF4 then some (3, 0x80, 0xBF)
  else if lead = 0xF4 then some (3, 0x80, 0x8F)
  else none

/-- A character part way through: where it began, how many bytes it has, how many are missing and
the range of the next one. -/
structure Progress where
  start : Nat
  seen : Nat
  missing : Nat
  low : UInt8
  high : UInt8

/-- Walks the bytes after a character part way through. -/
def faultAfter (p : Progress) : List UInt8 → Option Fault
  | [] => if p.missing = 0 then none else some ⟨p.start, none⟩
  | b :: rest =>
    if p.missing = 0 then
      let start := p.start + p.seen
      match following? b with
      | none => some ⟨start, some 1⟩
      | some (missing, low, high) => faultAfter ⟨start, 1, missing, low, high⟩ rest
    else if p.low ≤ b && b ≤ p.high then
      faultAfter { p with seen := p.seen + 1, missing := p.missing - 1, low := 0x80, high := 0xBF }
        rest
    else some ⟨p.start, some p.seen⟩

def fault (bytes : List UInt8) : Fault :=
  (faultAfter ⟨0, 0, 0, 0, 0⟩ bytes).getD ⟨0, none⟩

def decode (bytes : List UInt8) : Except Fault String :=
  match String.fromUTF8? bytes.toByteArray with
  | some s => .ok s
  | none => .error (fault bytes)

end DocumentPipeline.Text.Utf8
