import DocumentPipeline.ClientError
import DocumentPipeline.Json.Reader
import DocumentPipeline.Protocol.Response
import DocumentPipeline.Text.Varint

/-!
Statistics of an execution as text. The payload is the one field of a message: a tag, the length of
the text and the text in UTF-8. What follows the text is not looked at, and no bytes at all are the
empty text.
-/
namespace DocumentPipeline

namespace Payload

def textTag : UInt8 := 0x0A

def ofText (text : String) : Payload :=
  let bytes := Text.Utf8.encode text
  ⟨stringPayloadType, textTag :: Text.Varint.encode bytes.length ++ bytes⟩

/-- The text in the bytes of a payload. -/
def decodeText : List UInt8 → Except DecodeFault String
  | [] => .ok ""
  | tag :: rest =>
    if tag ≠ textTag then .error (.payloadTag tag)
    else match Text.Varint.decode? rest with
      | none => .error .payloadLength
      | some (length, body) =>
        if body.length < length then .error .payloadTruncated
        else (Text.Utf8.decode (body.take length)).mapError .payloadText

end Payload

namespace ExplainStats
variable (s : ExplainStats)

def typeUrl? : Option String := s.payload.map (·.typeUrl)

def rawData : Except DecodeFault Payload :=
  match s.payload with
  | none => .error .noPayload
  | some p => .ok p

/-- The statistics as text, if that is what they are. -/
def text : Except DecodeFault String := do
  let p ← s.rawData
  if p.typeUrl ≠ stringPayloadType then throw (.notText p.typeUrl)
  Payload.decodeText p.value

/-- The text of the statistics read as JSON. -/
def json : Except DecodeFault Json := do
  match Json.read? (← s.text) with
  | none => throw .notJson
  | some j => return j

end ExplainStats
end DocumentPipeline
