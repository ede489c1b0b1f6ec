import DocumentPipeline.Encoding.Pipeline
import DocumentPipeline.Executor
import DocumentPipeline.Row
import DocumentPipeline.Settings
import DocumentPipeline.Text.Quoted

/-!
A client compiles pipelines into requests, hands them to an executor and reads the answers. To
compile, it checks the database, the length and the pipeline itself, and lays the options of the
call over the request. A whole answer is one snapshot; a streamed one is a list of rows and errors,
of which an error is not the end.
-/
namespace DocumentPipeline

/-- Options of one execution. -/
structure ExecuteOptions where
  consistency : Option Consistency
  explain : Option ExplainMode
  rawOptions : RawOptions

namespace ExecuteOptions

def unset : ExecuteOptions := ⟨none, none, []⟩

variable (o : ExecuteOptions)

/-- Reads inside a transaction, which excludes a read time. -/
def setTransaction (id : List UInt8) : Except PipelineError ExecuteOptions :=
  match o.consistency with
  | some (.readTime _) => .error (.invalidArgument .consistencyTwice)
  | _ => .ok { o with consistency := some (.transaction id) }

/-- Reads at a point in time, which excludes a transaction. -/
def setReadTime (time : Timestamp) : Except PipelineError ExecuteOptions :=
  match o.consistency with
  | some (.transaction _) => .error (.invalidArgument .consistencyTwice)
  | _ => .ok { o with consistency := some (.readTime time) }

def setExplain (mode : ExplainMode) : ExecuteOptions := { o with explain := some mode }

def setRaw (key : String) (value : Expression) : ExecuteOptions :=
  { o with rawOptions := o.rawOptions.insert key value }

end ExecuteOptions

/-- A client of one database. A batched client gets streamed answers as one response. -/
structure Client where
  settings : Settings
  batched : Bool

namespace Client

def create (settings : Settings) (batched : Bool) : Except ClientError Client := do
  settings.check.mapError .config
  return ⟨settings, batched⟩

variable (c : Client)

def database : DatabaseId := c.settings.database

/-- A short text for a reader. -/
def describe : String :=
  "PipelineClient \x7b database: " ++ Text.quote c.database.resourceName ++ " \x7d"

/-! Compiling -/

/-- Options of a request as no stage knows them. -/
def requestScope : Encoding.OptionScope := ⟨"execute", []⟩

/-- The fields of the explain options with a mode, if they have none. -/
def withMode (mode : ExplainMode) (fields : FieldMap Wire.Value) : FieldMap Wire.Value :=
  if (fields.get? Request.modeKey).isSome then fields
  else fields.insert Request.modeKey (.string mode.name)

/-- Asks for a mode, unless the options say something else about it. -/
def addExplain (mode : ExplainMode) (options : FieldMap Wire.Value) : FieldMap Wire.Value :=
  match options.get? Request.explainKey with
  | none => options.insert Request.explainKey (.map (withMode mode []))
  | some (.map fields) => options.insert Request.explainKey (.map (withMode mode fields))
  | some _ => options

/-- The request of a pipeline. -/
def compile (p : Pipeline) (o : ExecuteOptions) : Except PipelineError Request := do
  c.database.require p.database
  if c.settings.maxStages < p.length then
    throw (.invalidArgument (.tooManyStages p.length c.settings.maxStages))
  let stages ← p.toWire c.settings.skipUndefined
  let merged ← requestScope.merge c.settings.skipUndefined [] o.rawOptions
  let options := match o.explain.or c.settings.explain with
    | none => merged
    | some mode => addExplain mode merged
  return ⟨c.database.resourceName, ⟨stages, options⟩, o.consistency⟩

/-! Running -/

/-- Runs a pipeline and gives its whole result. A pipeline that cannot be compiled is not sent. -/
def execute (x : Executor) (p : Pipeline) (o : ExecuteOptions) :
    Except ClientError Snapshot × Executor :=
  match c.compile p o with
  | .error e => (.error (.pipeline e), x)
  | .ok request =>
    let (reply, x) := x.receive request
    (do
      let response ← reply.whole
      (Snapshot.ofResponse response).mapError .decode, x)

/-- The rows of a part of an answer. -/
def rowsOf : Except ClientError Response → List (Except ClientError Row)
  | .error e => [.error e]
  | .ok r => r.results.map fun d => (Row.ofDocument r.executionTime d).mapError .decode

/-- Runs a pipeline and gives its rows as they are delivered. -/
def stream (x : Executor) (p : Pipeline) (o : ExecuteOptions) :
    List (Except ClientError Row) × Executor :=
  match c.compile p o with
  | .error e => ([.error (.pipeline e)], x)
  | .ok request =>
    let (reply, x) := x.receive request
    let parts := if c.batched then [reply.whole] else reply.parts
    (parts.flatMap rowsOf, x)

end Client
end DocumentPipeline
