import DocumentPipeline.Error
import DocumentPipeline.Stage

/-!
Checks before a pipeline is sent. A walk over every expression of every stage, raw options included,
stops at the first part that must not be sent: a field path with an empty segment, an absent value
unless absent values are skipped, or a field transform.
-/
namespace DocumentPipeline.Validation

abbrev Check := Except Violation Unit

def checkField (f : Field) : Check :=
  if f.path = "" then .error .emptyFieldPath
  else if "" ∈ f.segments then .error (.emptyFieldSegment f.path)
  else .ok ()

/-- The location of an entry: its key, after the location of the map. -/
def below (location : Option String) (key : String) : String :=
  match location with
  | none => key
  | some path => path ++ "." ++ key

mutual

/-- Checks a literal at a location. -/
def checkConstant (skipUndefined : Bool) (location : Option String) : Constant → Check
  | .undefined => if skipUndefined then .ok () else .error (.undefined location)
  | .transform t => .error (.transform t location)
  | .array items => checkItems skipUndefined location items
  | .map entries => checkEntries skipUndefined location entries
  | _ => .ok ()

def checkItems (skipUndefined : Bool) (location : Option String) : List Constant → Check
  | [] => .ok ()
  | c :: rest => do
    checkConstant skipUndefined location c
    checkItems skipUndefined location rest

def checkEntries (skipUndefined : Bool) (location : Option String) :
    List (String × Constant) → Check
  | [] => .ok ()
  | (key, c) :: rest => do
    checkConstant skipUndefined (some (below location key)) c
    checkEntries skipUndefined location rest

end

mutual

/-- Checks an expression. A literal directly under a key has the key as its location. -/
def checkExpression (skipUndefined : Bool) : Expression → Check
  | .field f => checkField f
  | .constant c => checkConstant skipUndefined none c
  | .call _ arguments => checkExpressions skipUndefined arguments
  | .list items => checkExpressions skipUndefined items
  | .map entries => checkNamed skipUndefined entries

def checkExpressions (skipUndefined : Bool) : List Expression → Check
  | [] => .ok ()
  | e :: rest => do
    checkExpression skipUndefined e
    checkExpressions skipUndefined rest

def checkNamed (skipUndefined : Bool) : List (String × Expression) → Check
  | [] => .ok ()
  | (key, .constant c) :: rest => do
    checkConstant skipUndefined (some key) c
    checkNamed skipUndefined rest
  | (_, e) :: rest => do
    checkExpression skipUndefined e
    checkNamed skipUndefined rest

end

def checkFields (fields : List Field) : Check := fields.forM checkField

def checkAggregate (skipUndefined : Bool) (a : Aggregate) : Check :=
  checkExpressions skipUndefined a.arguments

def checkParameter (skipUndefined : Bool) : Parameter → Check
  | .expression e => checkExpression skipUndefined e
  | .aggregate a => checkAggregate skipUndefined a

def checkSearch (skipUndefined : Bool) (s : NearestSearch) : Check := do
  checkField s.field
  checkExpression skipUndefined s.vector
  s.distanceField.forM checkField

mutual

/-- Checks what a stage does. Violations inside a union carry the methods of the inner stages. -/
def checkBody (skipUndefined : Bool) (method : String) : StageBody → Except PipelineError Unit
  | .union other => checkPipeline skipUndefined other
  | .addFields entries | .select entries | .distinct entries =>
    (checkNamed skipUndefined entries).mapError (.validation method)
  | .removeFields fields => (checkFields fields).mapError (.validation method)
  | .filter c => (checkExpression skipUndefined c.expression).mapError (.validation method)
  | .aggregate accumulators groups =>
    Except.mapError (.validation method) do
      accumulators.forM fun entry => checkAggregate skipUndefined entry.2
      checkNamed skipUndefined groups
  | .findNearest search => (checkSearch skipUndefined search).mapError (.validation method)
  | .replaceWith e => (checkExpression skipUndefined e).mapError (.validation method)
  | .unnest e _ indexField =>
    Except.mapError (.validation method) do
      checkExpression skipUndefined e
      indexField.forM checkField
  | .sort keys =>
    Except.mapError (.validation method) <|
      keys.forM fun k => checkExpression skipUndefined k.expression
  | .custom _ parameters =>
    (parameters.forM (checkParameter skipUndefined)).mapError (.validation method)
  | _ => .ok ()

/-- Checks what a stage does and then its raw options. -/
def checkStage (skipUndefined : Bool) : Stage → Except PipelineError Unit
  | ⟨body, raw⟩ => do
    checkBody skipUndefined body.methodName body
    (checkNamed skipUndefined raw).mapError (.validation body.methodName)

def checkStages (skipUndefined : Bool) : List Stage → Except PipelineError Unit
  | [] => .ok ()
  | s :: rest => do
    checkStage skipUndefined s
    checkStages skipUndefined rest

def checkPipeline (skipUndefined : Bool) : Pipeline → Except PipelineError Unit
  | ⟨_, source, later, _⟩ => do
    checkStage skipUndefined source
    checkStages skipUndefined later

end

end DocumentPipeline.Validation
