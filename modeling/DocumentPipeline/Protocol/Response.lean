import DocumentPipeline.Wire.Reader
import DocumentPipeline.Wire.Writer

/-!
The responses of an engine. An execution may be answered by several partial responses; `combine`
makes one of them.
-/
namespace DocumentPipeline

/-- A row of the result. Rows that were computed have no name. -/
structure Document where
  name : Option String
  fields : FieldMap Wire.Value
  createTime : Option Timestamp
  updateTime : Option Timestamp

/-- Bytes with the type of what they hold. -/
structure Payload where
  typeUrl : String
  value : List UInt8
  deriving DecidableEq

/-- Statistics of an execution, as the engine sent them. -/
structure ExplainStats where
  payload : Option Payload
  deriving DecidableEq

structure Response where
  transaction : Option (List UInt8)
  results : List Document
  executionTime : Option Timestamp
  explainStats : Option ExplainStats

namespace Response

def empty : Response := ⟨none, [], none, none⟩

/-- A response and one that comes after it: the later of two transactions, times or statistics
counts. -/
def join (a b : Response) : Response where
  transaction := b.transaction.or a.transaction
  results := a.results ++ b.results
  executionTime := b.executionTime.or a.executionTime
  explainStats := b.explainStats.or a.explainStats

/-- All partial responses as one. -/
def combine (chunks : List Response) : Response := chunks.foldl join empty

end Response

/-! JSON of responses: what is absent is left out, except for results and fields. -/

open Json (Literal)

def Document.toJson (d : Document) : Json :=
  .ofMembers <|
    Json.optional "name" (d.name.map .string) ++
      [("fields", .object (Wire.fieldsToJson d.fields))] ++
      Json.optional "create_time" (d.createTime.map (·.toJson)) ++
      Json.optional "update_time" (d.updateTime.map (·.toJson))

def Payload.toJson (p : Payload) : Json :=
  .ofMembers [("type_url", .string p.typeUrl), ("value", .string (Text.Base64.encode p.value))]

def ExplainStats.toJson (s : ExplainStats) : Json :=
  .ofMembers (Json.optional "data" (s.payload.map (·.toJson)))

def Response.toJson (r : Response) : Json :=
  .ofMembers <|
    Json.optional "transaction" (r.transaction.map fun id => .string (Text.Base64.encode id)) ++
      [("results", .array (r.results.map (·.toJson)))] ++
      Json.optional "execution_time" (r.executionTime.map (·.toJson)) ++
      Json.optional "explain_stats" (r.explainStats.map (·.toJson))

/-- A part that may be missing or null. -/
def optional? {α : Type} (read : Literal → Option α) (part : Option Literal) : Option (Option α) :=
  part.elim (some none) (Literal.nullable read)

def Document.ofLiteral? (l : Literal) : Option Document := do
  match ← l.fields? ["name", "fields", "create_time", "update_time"] with
  | [name, fields, createTime, updateTime] =>
    return ⟨← optional? Literal.string? name, ← fields.elim (some []) Wire.fields?,
      ← optional? Timestamp.ofLiteral? createTime, ← optional? Timestamp.ofLiteral? updateTime⟩
  | _ => none

def Payload.ofLiteral? (l : Literal) : Option Payload := do
  match ← l.fields? ["type_url", "value"] with
  | [some typeUrl, value] =>
    return ⟨← typeUrl.string?, ← value.elim (some []) Wire.bytes?⟩
  | _ => none

def ExplainStats.ofLiteral? (l : Literal) : Option ExplainStats := do
  match ← l.fields? ["data"] with
  | [data] => return ⟨← optional? Payload.ofLiteral? data⟩
  | _ => none

/-- The documents of an array. -/
def documents? : Literal → Option (List Document)
  | .array items => items.mapM Document.ofLiteral?
  | _ => none

def Response.ofLiteral? (l : Literal) : Option Response := do
  match ← l.fields? ["transaction", "results", "execution_time", "explain_stats"] with
  | [transaction, results, executionTime, stats] =>
    return ⟨← optional? Wire.bytes? transaction, ← results.elim (some []) documents?,
      ← optional? Timestamp.ofLiteral? executionTime, ← optional? ExplainStats.ofLiteral? stats⟩
  | _ => none

end DocumentPipeline
