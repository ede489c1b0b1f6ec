import DocumentPipeline.ClientError
import DocumentPipeline.Explain
import DocumentPipeline.Protocol.Response
import DocumentPipeline.Wire.View

/-!
Results of an execution: rows with their fields, and the snapshot that holds all rows of a response.
-/
namespace DocumentPipeline

/-- A row. Computed rows are no documents and have no reference. -/
structure Row where
  reference : Option DocumentReference
  fields : FieldMap Wire.Value
  createTime : Option Timestamp
  updateTime : Option Timestamp
  executionTime : Option Timestamp

namespace Row

/-- The row of a document of a response with the given time. -/
def ofDocument (executionTime : Option Timestamp) (d : Document) : Except DecodeFault Row := do
  let reference ← d.name.mapM fun name =>
    (DocumentReference.ofResourceName name).mapError fun fault => .documentName (.ofPath fault)
  return ⟨reference, d.fields, d.createTime, d.updateTime, executionTime⟩

variable (r : Row)

/-- The row as a plain JSON object. -/
def data : Json := .object (Wire.fieldsView r.fields)

/-- The value that keys lead to through maps. -/
def follow : Wire.Value → List String → Option Wire.Value
  | v, [] => some v
  | v, key :: rest => do follow (← (← v.map?).get? key) rest

/-- The plain JSON of the field at a dotted path. -/
def get? (path : String) : Option Json :=
  (follow (.map r.fields) (Text.split '.' path)).map (·.view)

end Row

/-- The whole result of an execution. -/
structure Snapshot where
  rows : List Row
  executionTime : Option Timestamp
  explainStats : Option ExplainStats
  transaction : Option (List UInt8)

/-- The snapshot of a response; every row carries the time of the response. -/
def Snapshot.ofResponse (r : Response) : Except DecodeFault Snapshot := do
  let rows ← r.results.mapM (Row.ofDocument r.executionTime)
  return ⟨rows, r.executionTime, r.explainStats, r.transaction⟩

end DocumentPipeline
