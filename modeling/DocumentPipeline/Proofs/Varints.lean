import DocumentPipeline.Text.Varint
import Mathlib.Data.Nat.Digits.Lemmas

/-!
# Numbers in base 128

Bytes write a number with seven bits each, and all but the last have the high bit set. A number can
be written in many ways, since more bytes may follow that stand for nothing; the encoder writes it
in the fewest bytes.

* `Delimited`, `value`: bytes that end where their high bits say, and the number that they write;
* `Minimal`: the shortest bytes that write a number;
* `minimal_encode`, `length_encode_le`: what the encoder writes, and in how many bytes;
* `decode?_append`: bytes are read up to where they end, whatever follows them;
* `digits?_eq_some_iff`, `decode?_eq_some_iff`, `Delimited.unique`: nothing else is read, and bytes
  begin with one number at most.
-/

namespace DocumentPipeline.Text.Varint

/-- Every byte but the last has its high bit set. -/
inductive Delimited : List UInt8 → Prop where
  | last {b : UInt8} : b < 128 → Delimited [b]
  | more {b : UInt8} {rest : List UInt8} : 128 ≤ b → Delimited rest → Delimited (b :: rest)

/-- The number that bytes write: seven bits of each of them are a digit, the least one first. -/
def value (bytes : List UInt8) : Nat := Nat.ofDigits 128 (bytes.map (·.toNat % 128))

/-- The shortest bytes that write a number. -/
structure Minimal (n : Nat) (bytes : List UInt8) : Prop where
  delimited : Delimited bytes
  value_eq : value bytes = n
  shortest : ∀ other, Delimited other → value other = n → bytes.length ≤ other.length

theorem value_cons (b : UInt8) (rest : List UInt8) :
    value (b :: rest) = b.toNat % 128 + 128 * value rest := by
  simp [value, Nat.ofDigits_cons]

theorem value_lt (bytes : List UInt8) : value bytes < 128 ^ bytes.length := by
  have digit : ∀ x ∈ bytes.map (·.toNat % 128), x < 128 := by
    rw [List.forall_mem_map]
    exact fun b _ => Nat.mod_lt _ (by decide)
  simpa [value] using Nat.ofDigits_lt_base_pow_length (by decide) digit

/-! ## Writing -/

theorem delimited_encode (n : Nat) : Delimited (encode n) := by
  fun_induction encode n with
  | case1 n small =>
    refine .last (UInt8.lt_iff_toNat_lt.2 ?_)
    rw [UInt8.toNat_ofNat_of_lt' (show n < 256 by omega)]
    exact small
  | case2 n large ih =>
    refine .more (UInt8.le_iff_toNat_le.2 ?_) ih
    rw [UInt8.toNat_ofNat_of_lt' (show n % 128 + 128 < 256 by omega)]
    exact Nat.le_add_left 128 _

/-- What is written is the number. -/
theorem value_encode (n : Nat) : value (encode n) = n := by
  fun_induction encode n with
  | case1 n small =>
    have digit : (UInt8.ofNat n).toNat = n :=
      UInt8.toNat_ofNat_of_lt' (show n < 256 by omega)
    rw [value_cons, digit]
    exact Nat.mod_eq_of_lt small
  | case2 n large ih =>
    have digit : (UInt8.ofNat (n % 128 + 128)).toNat = n % 128 + 128 :=
      UInt8.toNat_ofNat_of_lt' (show n % 128 + 128 < 256 by omega)
    rw [value_cons, digit, ih]
    omega

/-- A number below a power of 128 takes no more bytes than the exponent. -/
theorem length_encode_le {n k : Nat} (positive : 0 < k) (h : n < 128 ^ k) :
    (encode n).length ≤ k := by
  -- Each byte that is written takes one factor off the bound.
  fun_induction encode n generalizing k with
  | case1 n small => exact positive
  | case2 n large ih =>
    obtain ⟨k, rfl⟩ := Nat.exists_eq_succ_of_ne_zero positive.ne'
    have room : 0 < k := by
      by_contra none
      obtain rfl : k = 0 := by omega
      omega
    rw [Nat.pow_succ] at h
    have shorter := ih room (by omega)
    rw [List.length_cons]
    omega

/-- **The encoder writes a number in the fewest bytes.** -/
theorem minimal_encode (n : Nat) : Minimal n (encode n) where
  delimited := delimited_encode n
  value_eq := value_encode n
  shortest other delimited same := by
    have positive : 0 < other.length := by
      cases delimited <;> simp
    exact length_encode_le positive (same ▸ value_lt other)

/-! ## Reading -/

/-- The digits of delimited bytes are read, and nothing after them. -/
theorem digits?_append {bytes : List UInt8} (h : Delimited bytes) {room : Nat}
    (fits : bytes.length ≤ room) (rest : List UInt8) :
    digits? room (bytes ++ rest) = some (value bytes, rest) := by
  induction h generalizing room with
  | @last b small =>
    obtain ⟨room, rfl⟩ := Nat.exists_eq_add_of_le' fits
    have digit : b.toNat % 128 = b.toNat := Nat.mod_eq_of_lt (UInt8.lt_iff_toNat_lt.1 small)
    rw [value_cons, digit]
    exact if_pos small
  | @more b after large _ ih =>
    rw [List.length_cons] at fits
    obtain ⟨room, rfl⟩ := Nat.exists_eq_add_one.2 (Nat.zero_lt_of_lt fits)
    have bound : 128 ≤ b.toNat := UInt8.le_iff_toNat_le.1 large
    have digit : b.toNat - 128 = b.toNat % 128 := by
      have := b.toNat_lt
      omega
    have continues : ¬b < 128 := UInt8.not_lt.2 large
    rw [List.cons_append, digits?, if_neg continues, ih (by omega), value_cons, digit]
    rfl

/-- What is read are delimited bytes at the front, if they are no more than there is room for. -/
theorem digits?_eq_some_iff {room n : Nat} {bytes rest : List UInt8} :
    digits? room bytes = some (n, rest) ↔ ∃ header, Delimited header ∧ header.length ≤ room ∧
      bytes = header ++ rest ∧ value header = n := by
  constructor
  · intro read
    fun_induction digits? room bytes generalizing n with
    | case1 => cases read
    | case2 => cases read
    | case3 room b after small =>
      cases read
      have digit : b.toNat % 128 = b.toNat := Nat.mod_eq_of_lt (UInt8.lt_iff_toNat_lt.1 small)
      exact ⟨[b], .last small, by simp, rfl, by rw [value_cons, digit]; rfl⟩
    | case4 room b after large ih =>
      obtain ⟨⟨m, rest'⟩, later, same⟩ := Option.map_eq_some_iff.1 read
      cases same
      obtain ⟨header, delimited, fits, rfl, rfl⟩ := ih later
      have bound : 128 ≤ b.toNat := UInt8.le_iff_toNat_le.1 (UInt8.not_lt.1 large)
      have digit : b.toNat % 128 = b.toNat - 128 := by
        have := b.toNat_lt
        omega
      refine ⟨b :: header, .more (UInt8.not_lt.1 large) delimited, ?_, rfl, ?_⟩
      · exact Nat.succ_le_succ fits
      · rw [value_cons, digit]
  · rintro ⟨header, delimited, fits, rfl, rfl⟩
    exact digits?_append delimited fits rest

/-- Bytes begin with one number at most. -/
theorem Delimited.unique {first second rest rest' : List UInt8} (h : Delimited first)
    (h' : Delimited second) (same : first ++ rest = second ++ rest') :
    first = second ∧ rest = rest' := by
  have read := digits?_append h (Nat.le_max_left _ second.length) rest
  rw [same, digits?_append h' (Nat.le_max_right first.length _) rest'] at read
  obtain ⟨-, rfl⟩ := Prod.mk.inj (Option.some.inj read)
  exact ⟨List.append_cancel_right same, rfl⟩

/-- **A number is read back**, up to its low 64 bits, whatever follows it. -/
theorem decode?_append {bytes : List UInt8} (h : Delimited bytes) (fits : bytes.length ≤ 10)
    (rest : List UInt8) : decode? (bytes ++ rest) = some (value bytes % 2 ^ 64, rest) := by
  rw [decode?, digits?_append h fits]
  rfl

/-- A number is read from its bytes only. -/
theorem decode?_eq_some_iff {n : Nat} {bytes rest : List UInt8} :
    decode? bytes = some (n, rest) ↔ ∃ header, Delimited header ∧ header.length ≤ 10 ∧
      bytes = header ++ rest ∧ value header % 2 ^ 64 = n := by
  constructor
  · intro read
    obtain ⟨⟨m, rest'⟩, digits, same⟩ := Option.map_eq_some_iff.1 read
    cases same
    obtain ⟨header, delimited, fits, rfl, rfl⟩ := digits?_eq_some_iff.1 digits
    exact ⟨header, delimited, fits, rfl, rfl⟩
  · rintro ⟨header, delimited, fits, rfl, rfl⟩
    exact decode?_append delimited fits rest

end DocumentPipeline.Text.Varint
