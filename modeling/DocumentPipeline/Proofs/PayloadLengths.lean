import DocumentPipeline.Proofs.PayloadTexts
import DocumentPipeline.Proofs.Success

/-!
# Lengths declared in payloads

A payload declares how long its text is. Ten bytes may be used for that, which have room for seventy
bits, and the number is read into sixty-four: a length beyond that is taken for a smaller one.

* `Payload.Holds`: bytes that hold a text, by a rule for the length that they declare;
* `Payload.decodeText_eq_ok_iff`, `Payload.decodeText_truncated_iff`: when bytes are read as a text,
  and when they end before it does;
* `Payload.Misread`: bytes with a length beyond 64 bits that are read as a text all the same;
* `Payload.decodeText_by_length_iff`: all others are read by the length that they declare.
-/

namespace DocumentPipeline

namespace Text.Utf8

/-- Bytes are read as the text that they encode. -/
theorem decode_eq_ok_iff {bytes : List UInt8} {s : String} :
    decode bytes = .ok s ↔ bytes = encode s := by
  constructor
  · intro read
    rw [decode] at read
    split at read
    · next t valid =>
      cases read
      rw [String.fromUTF8?, Option.dite_none_right_eq_some] at valid
      obtain ⟨_, same⟩ := valid
      have content : bytes.toByteArray = s.toUTF8 := congrArg String.toUTF8 (Option.some.inj same)
      rw [encode, ← content]
      simp
    · cases read
  · rintro rfl
    exact decode_encode s

end Text.Utf8

open Text

namespace Payload

/-- Bytes that begin with the tag and a length, and what comes after these. -/
structure Declares (bytes header body : List UInt8) : Prop where
  delimited : Varint.Delimited header
  fits : header.length ≤ 10
  bytes_eq : bytes = textTag :: (header ++ body)

/-- Bytes that hold a text: none at all hold the empty text, and others have the tag, the length of
the text, its bytes, and anything after them. Which length is declared is up to `size`. -/
inductive Holds (size : List UInt8 → Nat) : List UInt8 → String → Prop where
  | nothing : Holds size [] ""
  | tagged {bytes header rest : List UInt8} {text : String} :
      Declares bytes header (Utf8.encode text ++ rest) →
      size header = (Utf8.encode text).length → Holds size bytes text

/-- The length that is read: the low 64 bits of the one that is declared. -/
def readSize (header : List UInt8) : Nat := Varint.value header % 2 ^ 64

section
variable {size size' : List UInt8 → Nat} {bytes header body : List UInt8} {text : String}

/-- What is read after a length: as many bytes as are read from it, as a text. -/
theorem Declares.decodeText_eq (declares : Declares bytes header body) :
    decodeText bytes =
      if body.length < readSize header then .error .payloadTruncated
      else (Utf8.decode (body.take (readSize header))).mapError .payloadText := by
  obtain ⟨delimited, fits, rfl⟩ := declares
  exact decodeText_tagged delimited fits body

/-- Bytes declare one length at most. -/
theorem Declares.unique {header' body' : List UInt8} (h : Declares bytes header body)
    (h' : Declares bytes header' body') : header = header' :=
  (h.delimited.unique h'.delimited (List.cons.inj (h.bytes_eq.symm.trans h'.bytes_eq)).2).1

/-- What becomes of bytes: they are empty, or they have another tag, or no length can be read from
them, or they declare one. -/
theorem decodeText_cases (bytes : List UInt8) :
    bytes = [] ∨ (∃ tag, decodeText bytes = .error (.payloadTag tag)) ∨
      decodeText bytes = .error .payloadLength ∨ ∃ header body, Declares bytes header body := by
  cases bytes with
  | nil => exact .inl rfl
  | cons tag rest =>
    by_cases other : tag ≠ textTag
    · exact .inr (.inl ⟨tag, if_pos other⟩)
    · obtain rfl := not_not.1 other
      cases declared : Varint.decode? rest with
      | none =>
        refine .inr (.inr (.inl ?_))
        rw [decodeText, if_neg other, declared]
      | some read =>
        obtain ⟨header, delimited, fits, rfl, -⟩ := Varint.decode?_eq_some_iff.1 declared
        exact .inr (.inr (.inr ⟨header, read.2, delimited, fits, rfl⟩))

/-- **Bytes are read as the text that they hold** by the length that is read. -/
theorem decodeText_eq_ok_iff : decodeText bytes = .ok text ↔ Holds readSize bytes text := by
  constructor
  · intro read
    obtain rfl | ⟨tag, other⟩ | malformed | ⟨header, body, declares⟩ := decodeText_cases bytes
    · cases read
      exact .nothing
    · rw [other] at read
      cases read
    · rw [malformed] at read
      cases read
    · rw [declares.decodeText_eq] at read
      split at read
      · cases read
      · next long =>
        rw [mapError_eq_ok, Utf8.decode_eq_ok_iff] at read
        rw [← List.take_append_drop (readSize header) body, read] at declares
        refine .tagged declares ?_
        rw [← read, List.length_take, Nat.min_eq_left (Nat.not_lt.1 long)]
  · intro holds
    cases holds with
    | nothing => rfl
    | @tagged _ header rest _ declares length =>
      have long : ¬(Utf8.encode text ++ rest).length < readSize header := by
        rw [length, List.length_append]
        exact Nat.not_lt.2 (Nat.le_add_right _ _)
      rw [declares.decodeText_eq, if_neg long, length, List.take_left, Utf8.decode_encode,
        mapError_ok]

/-- **Bytes end too early** when fewer of them follow the length than are read from it. -/
theorem decodeText_truncated_iff :
    decodeText bytes = .error .payloadTruncated ↔
      ∃ header body, Declares bytes header body ∧ body.length < readSize header := by
  constructor
  · intro refused
    obtain rfl | ⟨tag, other⟩ | malformed | ⟨header, body, declares⟩ := decodeText_cases bytes
    · cases refused
    · rw [other] at refused
      cases refused
    · rw [malformed] at refused
      cases refused
    · rw [declares.decodeText_eq] at refused
      split at refused
      · next short => exact ⟨header, body, declares, short⟩
      · obtain ⟨fault, -, other⟩ := mapError_eq_error.1 refused
        cases other
  · rintro ⟨header, body, declares, short⟩
    rw [declares.decodeText_eq, if_pos short]

/-- A text that bytes hold has the length that they declare. -/
theorem Holds.length_eq (holds : Holds size bytes text) (declares : Declares bytes header body) :
    (Utf8.encode text).length = size header := by
  cases holds with
  | nothing => cases declares.bytes_eq
  | tagged declares' length => rw [declares.unique declares', length]

/-- What bytes hold depends on the size of the one length that they declare. -/
theorem Holds.congr (holds : Holds size bytes text)
    (same : ∀ header body, Declares bytes header body → size header = size' header) :
    Holds size' bytes text := by
  cases holds with
  | nothing => exact .nothing
  | tagged declares length => exact .tagged declares ((same _ _ declares).symm.trans length)

end

/-- The length that bytes declare does not fit in 64 bits, and yet they hold a text, which is as long
as the low 64 bits say. (That it is as long as declared is allowed here as well; so many bytes are
never in a memory.) -/
def Misread (bytes : List UInt8) : Prop :=
  (∃ header body, Declares bytes header body ∧ 2 ^ 64 ≤ Varint.value header) ∧
    ∃ text, Holds readSize bytes text ∨ Holds Varint.value bytes text

/-- **Bytes are read by the length that they declare** just when it fits in 64 bits or they hold no
text. In any case they are read by the low 64 bits of it, and refused as too short when fewer bytes
follow than these say. -/
theorem decodeText_by_length_iff (bytes : List UInt8) :
    (∀ text, decodeText bytes = .ok text ↔ Holds readSize bytes text) ∧
      (decodeText bytes = .error .payloadTruncated ↔
        ∃ header body, Declares bytes header body ∧ body.length < readSize header) ∧
      ((∀ text, decodeText bytes = .ok text ↔ Holds Varint.value bytes text) ↔
        ¬Misread bytes) := by
  refine ⟨fun text => decodeText_eq_ok_iff, decodeText_truncated_iff, ?_⟩
  simp only [decodeText_eq_ok_iff]
  constructor
  · rintro byLength ⟨⟨header, body, declares, long⟩, text, holds⟩
    -- The text would have both lengths, and only one of them is below the bound.
    have read : Holds readSize bytes text := holds.elim id (byLength text).2
    have declared : Holds Varint.value bytes text := (byLength text).1 read
    have same : readSize header = Varint.value header :=
      (read.length_eq declares).symm.trans (declared.length_eq declares)
    have below : readSize header < 2 ^ 64 := Nat.mod_lt _ (by decide)
    omega
  · intro wellRead text
    by_cases long : ∃ header body, Declares bytes header body ∧ 2 ^ 64 ≤ Varint.value header
    · exact ⟨fun holds => absurd ⟨long, text, .inl holds⟩ wellRead,
        fun holds => absurd ⟨long, text, .inr holds⟩ wellRead⟩
    · have same (header body : List UInt8) (declares : Declares bytes header body) :
          readSize header = Varint.value header := by
        refine Nat.mod_eq_of_lt (Nat.lt_of_not_le fun beyond => long ?_)
        exact ⟨header, body, declares, beyond⟩
      exact ⟨fun holds => holds.congr same,
        fun holds => holds.congr fun header body declares => (same header body declares).symm⟩

/-- A payload that declares `2 ^ 64 + 1` bytes, of which one is there, is read as a text of one. -/
theorem not_decodeText_by_length :
    ¬∀ bytes text, decodeText bytes = .ok text ↔ Holds Varint.value bytes text := by
  intro byLength
  let header : List UInt8 := [0x81, 0x80, 0x80, 0x80, 0x80, 0x80, 0x80, 0x80, 0x80, 0x02]
  have delimited : Varint.Delimited header := by
    repeat refine .more (by decide) ?_
    exact .last (by decide)
  have letter : Utf8.encode "a" = [0x61] := by decide
  have declares : Declares (textTag :: (header ++ (Utf8.encode "a" ++ []))) header
      (Utf8.encode "a" ++ []) := ⟨delimited, by decide, rfl⟩
  have read : Holds readSize _ "a" := .tagged declares (by rw [letter]; decide)
  have declared := (byLength _ _).1 (decodeText_eq_ok_iff.2 read)
  have length := declared.length_eq declares
  rw [letter] at length
  revert length
  decide

end Payload
end DocumentPipeline
