import DocumentPipeline.Explain
import DocumentPipeline.Proofs.Varints

/-!
# Texts in payloads

A text is sent as a tag, its length and its bytes, and is read back from there.

* `Text.Utf8.decode_encode`: a text is found again in its bytes;
* `Payload.decodeText_tagged`: what is read after a tag and a length;
* `Payload.ofText_eq`: the bytes of a payload that holds a text;
* `ExplainStats.text_ofText`: statistics that were sent as a text give that text again.
-/

namespace DocumentPipeline

namespace Text.Utf8

theorem length_encode (s : String) : (encode s).length = s.utf8ByteSize := by
  simp [encode]

/-- **A text is found again in its bytes.** -/
theorem decode_encode (s : String) : decode (encode s) = .ok s := by
  have bytes : (encode s).toByteArray = s.toUTF8 := by
    apply ByteArray.ext
    simp [encode]
  have text : String.fromUTF8? s.toUTF8 = some s := by
    rw [String.fromUTF8?, String.toUTF8_eq_toByteArray, dif_pos s.isValidUTF8]
    rfl
  rw [decode, bytes, text]

end Text.Utf8

open Text

namespace Payload

/-- What is read after the tag: as many bytes as the length before them says, as a text. -/
theorem decodeText_tagged {header : List UInt8} (delimited : Varint.Delimited header)
    (fits : header.length ≤ 10) (body : List UInt8) :
    decodeText (textTag :: (header ++ body)) =
      if body.length < Varint.value header % 2 ^ 64 then .error .payloadTruncated
      else (Utf8.decode (body.take (Varint.value header % 2 ^ 64))).mapError
        .payloadText := by
  rw [decodeText, if_neg (not_not_intro rfl), Varint.decode?_append delimited fits]

/-- The bytes of a payload that holds a text: the tag, the length of the text and its bytes. -/
theorem ofText_eq (text : String) :
    ofText text = ⟨stringPayloadType,
      0x0A :: (Varint.encode text.utf8ByteSize ++ Utf8.encode text)⟩ := by
  rw [← Utf8.length_encode]
  rfl

end Payload

namespace ExplainStats

/-- **A text is read back from the statistics that hold it.** Their payload is kept as it is: the
tag, the shortest form of the length, which takes no more than ten bytes and is read back whatever
follows it, and the bytes of the text. -/
theorem text_ofText (text : String) (short : text.utf8ByteSize < 2 ^ 64) :
    ExplainStats.text ⟨some (.ofText text)⟩ = .ok text ∧
      rawData ⟨some (.ofText text)⟩ = .ok (.ofText text) ∧
      Payload.ofText text = ⟨stringPayloadType,
        0x0A :: (Varint.encode text.utf8ByteSize ++ Utf8.encode text)⟩ ∧
      Varint.Minimal text.utf8ByteSize (Varint.encode text.utf8ByteSize) ∧
      (Varint.encode text.utf8ByteSize).length ≤ 10 ∧
      ∀ rest, Varint.decode? (Varint.encode text.utf8ByteSize ++ rest) =
        some (text.utf8ByteSize, rest) := by
  have minimal := Varint.minimal_encode text.utf8ByteSize
  have fits : (Varint.encode text.utf8ByteSize).length ≤ 10 :=
    Varint.length_encode_le (by decide) (by omega)
  have size : Varint.value (Varint.encode text.utf8ByteSize) % 2 ^ 64 =
      text.utf8ByteSize := by
    rw [minimal.value_eq, Nat.mod_eq_of_lt short]
  refine ⟨?_, rfl, Payload.ofText_eq text, minimal, fits, fun rest => ?_⟩
  · have read : Payload.decodeText (Payload.ofText text).value = .ok text := by
      rw [Payload.ofText_eq]
      refine (Payload.decodeText_tagged minimal.delimited fits _).trans ?_
      rw [size, Utf8.length_encode, if_neg (Nat.lt_irrefl _), ← Utf8.length_encode,
        List.take_length, Utf8.decode_encode]
      rfl
    exact read
  · rw [Varint.decode?_append minimal.delimited fits, size]

/-- A plan of three hundred letters of two bytes each. -/
def longPlan : String := String.ofList (List.replicate 300 'é')

theorem longPlan_read_back :
    longPlan.utf8ByteSize < 2 ^ 64 ∧
      ExplainStats.text ⟨some (.ofText longPlan)⟩ = .ok longPlan ∧
      (Payload.ofText longPlan).value.take 3 = [0x0A, 0xD8, 0x04] := by
  have size : longPlan.utf8ByteSize = 600 := by decide +kernel
  have short : longPlan.utf8ByteSize < 2 ^ 64 := by omega
  obtain ⟨text, -, bytes, -⟩ := text_ofText longPlan short
  have length : Varint.encode 600 = [0xD8, 0x04] := by
    rw [Varint.encode, Varint.encode]
    rfl
  refine ⟨short, text, ?_⟩
  rw [bytes, size, length]
  rfl

end ExplainStats
end DocumentPipeline
