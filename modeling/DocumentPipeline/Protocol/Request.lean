import DocumentPipeline.Wire.Reader
import DocumentPipeline.Wire.Writer

/-!
The request that an engine gets: the database, the pipeline with its options, and what state of the
data to read.
-/
namespace DocumentPipeline

/-- Whether a pipeline is run, planned, or run with statistics. -/
inductive ExplainMode where
  | execute
  | explain
  | analyze
  deriving DecidableEq

namespace ExplainMode

def name : ExplainMode → String
  | .execute => "execute"
  | .explain => "explain"
  | .analyze => "analyze"

def ofName? (name : String) : Option ExplainMode :=
  [execute, explain, analyze].find? (·.name == name)

end ExplainMode

/-- Reads inside a transaction or at a point in time. -/
inductive Consistency where
  | transaction (id : List UInt8)
  | readTime (time : Timestamp)
  deriving DecidableEq

structure Request where
  /-- The resource name of the database. -/
  database : String
  pipeline : Wire.StructuredPipeline
  consistency : Option Consistency

namespace Request

/-- The key of the options that ask for statistics, and the key of their mode. -/
def explainKey : String := "explain_options"

def modeKey : String := "mode"

/-- The mode that the options of a request ask for. -/
def explainMode? (r : Request) : Option ExplainMode := do
  let options ← (← r.pipeline.options.get? explainKey).map?
  ExplainMode.ofName? (← (← options.get? modeKey).string?)

end Request

namespace Consistency

def toJson : Consistency → Json
  | .transaction id => Wire.tagged "transaction" (.string (Text.Base64.encode id))
  | .readTime t => Wire.tagged "read_time" t.toJson

def ofLiteral? : Json.Literal → Option Consistency
  | .object [(some tag, content)] =>
    if tag = "transaction" then (Wire.bytes? content).map .transaction
    else if tag = "read_time" then (Timestamp.ofLiteral? content).map .readTime
    else none
  | _ => none

end Consistency

namespace Request

def toJson (r : Request) : Json :=
  .ofMembers <|
    [("database", .string r.database), ("structured_pipeline", r.pipeline.toJson)] ++
      Json.optional "consistency" (r.consistency.map (·.toJson))

def ofLiteral? (l : Json.Literal) : Option Request := do
  match ← l.fields? ["database", "structured_pipeline", "consistency"] with
  | [some database, some pipeline, consistency] =>
    return ⟨← database.string?, ← Wire.StructuredPipeline.ofLiteral? pipeline,
      ← consistency.elim (some none) (Json.Literal.nullable Consistency.ofLiteral?)⟩
  | _ => none

end Request
end DocumentPipeline
