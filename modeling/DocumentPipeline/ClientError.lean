import DocumentPipeline.Error
import DocumentPipeline.Text.Utf8

/-!
Why a client cannot answer: the pipeline is at fault, the engine refused it, its answer cannot be
read, or the settings are no good. Errors of the caller are told from the others.
-/
namespace DocumentPipeline

/-- The type of payloads that hold a single text. -/
def stringPayloadType : String := "type.googleapis.com/google.protobuf.StringValue"

/-- Why an answer cannot be read. -/
inductive DecodeFault where
  | documentName (error : PipelineError)
  | noPayload
  | notText (typeUrl : String)
  | payloadTag (tag : UInt8)
  | payloadLength
  | payloadTruncated
  | payloadText (fault : Text.Utf8.Fault)
  | notJson
  | stated (text : String)

/-- A byte in two upper-case digits of base sixteen. -/
def upperHex (b : UInt8) : String :=
  String.ofList ((Text.Hex.fixed 2 b.toNat).map Char.toUpper)

def DecodeFault.message : DecodeFault → String
  | .documentName error => "invalid document name: " ++ error.message
  | .noPayload => "explain stats carry no payload"
  | .notText typeUrl =>
    "explain stats requested as text (" ++ stringPayloadType ++ "), but the payload is " ++ typeUrl
  | .payloadTag tag => "unexpected tag 0x" ++ upperHex tag ++ " in string payload"
  | .payloadLength => "malformed length in string payload"
  | .payloadTruncated => "truncated string payload"
  | .payloadText fault => "string payload is not UTF-8: " ++ fault.message
  | .notJson => "explain stats are not valid JSON"
  | .stated text => text

/-- Why settings cannot be used. -/
inductive ConfigFault where
  | noProject
  | noDatabase
  | noStages
  | unreadable
  | tooLarge
  | stated (text : String)

def ConfigFault.message : ConfigFault → String
  | .noProject => "project_id must be set"
  | .noDatabase => "database_id must not be empty"
  | .noStages => "max_stages must be at least 1"
  | .unreadable => "the text does not give settings"
  | .tooLarge => "out-of-range value for u64 type"
  | .stated text => text

inductive ClientError where
  | pipeline (error : PipelineError)
  | execution (message : String)
  | decode (fault : DecodeFault)
  | config (fault : ConfigFault)

namespace ClientError

def message : ClientError → String
  | .pipeline error => error.message
  | .execution message => "Execution error: " ++ message
  | .decode fault => "Decode error: " ++ fault.message
  | .config fault => "Configuration error: " ++ fault.message

/-- Errors in the use of the builders, which are the caller's own. -/
def isUsageError : ClientError → Bool
  | .pipeline (.unsupportedOperand _) => true
  | .pipeline (.invalidArgument _) => true
  | .pipeline (.databaseMismatch ..) => true
  | _ => false

end ClientError
end DocumentPipeline
