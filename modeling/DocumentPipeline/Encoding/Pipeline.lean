import DocumentPipeline.Encoding.Options
import DocumentPipeline.Stage
import DocumentPipeline.Validation

/-!
The wire form of stages and pipelines. Collections and documents go by their path in the database,
after a slash. Encoding by itself checks nothing; `toWire` checks the pipeline first.
-/
namespace DocumentPipeline.Encoding

open Wire (Value)

def collectionValue (c : CollectionReference) : Value := .reference ("/" ++ c.path)

def documentValue (d : DocumentReference) : Value := .reference ("/" ++ d.path)

def encodeRate : SampleRate → Value
  | .documents n => .integer n
  | .percent x => .double x

/-- The scope of the options of a stage. -/
def optionScope (body : StageBody) : OptionScope := ⟨body.name, body.knownOptions⟩

mutual

/-- The arguments of a stage. -/
def encodeBody (skipUndefined : Bool) : StageBody → Except PipelineError (List Value)
  | .union other => do return [.pipeline (← encodePipeline skipUndefined other)]
  | .collection c _ => .ok [collectionValue c]
  | .collectionGroup id _ => .ok [.reference "", .string id]
  | .database => .ok []
  | .documents ds => .ok (ds.map documentValue)
  | .addFields entries | .select entries | .distinct entries =>
    Except.mapError .ofEncoding do return [← encodeNamed skipUndefined entries]
  | .removeFields fields => .ok (fields.map fun f => .field f.path)
  | .filter c =>
    Except.mapError .ofEncoding do return [← encodeExpression skipUndefined c.expression]
  | .offset n | .limit n => .ok [.integer n]
  | .aggregate accumulators groups =>
    Except.mapError .ofEncoding do
      let accumulators ← encodeAccumulators skipUndefined accumulators
      let groups ← encodeNamed skipUndefined groups
      return [accumulators, groups]
  | .findNearest s =>
    Except.mapError .ofEncoding do
      return [.field s.field.path, ← encodeExpression skipUndefined s.vector,
        .string s.measure.name]
  | .replaceWith e =>
    Except.mapError .ofEncoding do
      return [← encodeExpression skipUndefined e, .string "full_replace"]
  | .sample rate => .ok [encodeRate rate, .string rate.mode]
  | .unnest e name _ =>
    Except.mapError .ofEncoding do return [← encodeExpression skipUndefined e, .field name]
  | .sort keys => (keys.mapM (encodeSortKey skipUndefined)).mapError .ofEncoding
  | .mutation _ target => .ok (target.map collectionValue).toList
  | .custom _ parameters =>
    (parameters.mapM (encodeParameter skipUndefined)).mapError .ofEncoding

/-- A stage: its arguments first, then its options. -/
def encodeStage (skipUndefined : Bool) : Stage → Except PipelineError Wire.Stage
  | ⟨body, raw⟩ => do
    let arguments ← encodeBody skipUndefined body
    let options ← (optionScope body).merge skipUndefined body.computedOptions raw
    return ⟨body.name, arguments, options⟩

def encodeStages (skipUndefined : Bool) : List Stage → Except PipelineError (List Wire.Stage)
  | [] => .ok []
  | s :: rest => do
    let w ← encodeStage skipUndefined s
    let ws ← encodeStages skipUndefined rest
    return w :: ws

def encodePipeline (skipUndefined : Bool) : Pipeline → Except PipelineError (List Wire.Stage)
  | ⟨_, source, later, _⟩ => do
    let w ← encodeStage skipUndefined source
    let ws ← encodeStages skipUndefined later
    return w :: ws

end

def succeeds {ε α : Type} : Except ε α → Bool
  | .ok _ => true
  | .error _ => false

mutual

/-- The overrides inside the arguments of a stage, which only a union has. -/
def bodyOverrides (skipUndefined : Bool) : StageBody → List Override
  | .union other => pipelineOverrides skipUndefined other
  | _ => []

/-- The overrides that encoding a stage reports. -/
def stageOverrides (skipUndefined : Bool) : Stage → List Override
  | ⟨body, raw⟩ =>
    bodyOverrides skipUndefined body ++
      if succeeds (encodeBody skipUndefined body) then
        (optionScope body).overrides skipUndefined body.computedOptions raw
      else []

def stagesOverrides (skipUndefined : Bool) : List Stage → List Override
  | [] => []
  | s :: rest =>
    stageOverrides skipUndefined s ++
      if succeeds (encodeStage skipUndefined s) then stagesOverrides skipUndefined rest else []

/-- The overrides that encoding a pipeline reports, up to the first stage that cannot be encoded. -/
def pipelineOverrides (skipUndefined : Bool) : Pipeline → List Override
  | ⟨_, source, later, _⟩ =>
    stageOverrides skipUndefined source ++
      if succeeds (encodeStage skipUndefined source) then stagesOverrides skipUndefined later
      else []

end

end Encoding

namespace Pipeline

/-- The wire form of a pipeline that passes the checks. -/
def toWire (skipUndefined : Bool) (p : Pipeline) : Except PipelineError (List Wire.Stage) := do
  Validation.checkPipeline skipUndefined p
  Encoding.encodePipeline skipUndefined p

/-- The overrides that `toWire` reports; a pipeline that fails the checks has none. -/
def overrides (skipUndefined : Bool) (p : Pipeline) : List Encoding.Override :=
  if Encoding.succeeds (Validation.checkPipeline skipUndefined p) then
    Encoding.pipelineOverrides skipUndefined p
  else []

end Pipeline
end DocumentPipeline
