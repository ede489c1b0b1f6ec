import DocumentPipeline.Error
import DocumentPipeline.Stage
import DocumentPipeline.Wire

/-!
The wire form of expressions. When absent values are skipped, an entry of a map that is one is left
out and every other absent value becomes null; otherwise an absent value has no wire form, and a
field transform never has one.
-/
namespace DocumentPipeline.Encoding

open Wire (Value)

abbrev Encoded := Except EncodingFault

mutual

/-- The wire form of a literal. -/
def encodeConstant (skipUndefined : Bool) : Constant → Encoded Value
  | .null => .ok .null
  | .boolean b => .ok (.boolean b)
  | .integer n => .ok (.integer n)
  | .double x => .ok (.double x)
  | .string s => .ok (.string s)
  | .bytes b => .ok (.bytes b)
  | .timestamp t => .ok (.timestamp t)
  | .geoPoint p => .ok (.geoPoint p)
  | .vector numbers => .ok (.vector numbers)
  | .reference d => .ok (.reference d.resourceName)
  | .array items => do return .array (← encodeConstants skipUndefined items)
  | .map entries => do return .map (← encodeEntries skipUndefined entries [])
  | .undefined => if skipUndefined then .ok .null else .error .undefined
  | .transform t => .error (.transform t)
  | .wire v => .ok v

def encodeConstants (skipUndefined : Bool) : List Constant → Encoded (List Value)
  | [] => .ok []
  | c :: rest => do
    let v ← encodeConstant skipUndefined c
    let vs ← encodeConstants skipUndefined rest
    return v :: vs

/-- Adds the entries of a map to those encoded before; of two with one key the later counts. -/
def encodeEntries (skipUndefined : Bool) :
    List (String × Constant) → FieldMap Value → Encoded (FieldMap Value)
  | [], before => .ok before
  | (key, c) :: rest, before =>
    if skipUndefined && c.isUndefined then encodeEntries skipUndefined rest before
    else do
      let v ← encodeConstant skipUndefined c
      encodeEntries skipUndefined rest (before.insert key v)

end

/-- An expression that is nothing but an absent value. -/
def isUndefined : Expression → Bool
  | .constant c => c.isUndefined
  | _ => false

mutual

/-- The wire form of an expression. -/
def encodeExpression (skipUndefined : Bool) : Expression → Encoded Value
  | .field f => .ok (.field f.path)
  | .constant c => encodeConstant skipUndefined c
  | .call name arguments => do return .call name (← encodeExpressions skipUndefined arguments)
  | .list items => do return .array (← encodeExpressions skipUndefined items)
  | .map entries => do return .map (← encodeNamedFrom skipUndefined entries [])

def encodeExpressions (skipUndefined : Bool) : List Expression → Encoded (List Value)
  | [] => .ok []
  | e :: rest => do
    let v ← encodeExpression skipUndefined e
    let vs ← encodeExpressions skipUndefined rest
    return v :: vs

/-- Adds named expressions to those encoded before. -/
def encodeNamedFrom (skipUndefined : Bool) :
    List (String × Expression) → FieldMap Value → Encoded (FieldMap Value)
  | [], before => .ok before
  | (key, e) :: rest, before =>
    if skipUndefined && isUndefined e then encodeNamedFrom skipUndefined rest before
    else do
      let v ← encodeExpression skipUndefined e
      encodeNamedFrom skipUndefined rest (before.insert key v)

end

/-- Named expressions as one map. -/
def encodeNamed (skipUndefined : Bool) (entries : ExpressionMap) : Encoded Value := do
  return .map (← encodeNamedFrom skipUndefined entries [])

def encodeAggregate (skipUndefined : Bool) (a : Aggregate) : Encoded Value := do
  return .call a.name (← encodeExpressions skipUndefined a.arguments)

/-- Accumulators as one map by their aliases. -/
def encodeAccumulators (skipUndefined : Bool) (accumulators : OrderedMap Aggregate) :
    Encoded Value := do
  let fields ← accumulators.mapM fun (name, a) => do
    return (name, ← encodeAggregate skipUndefined a)
  return .ofFields fields

/-- A sort key as a map of direction and expression. -/
def encodeSortKey (skipUndefined : Bool) (k : SortKey) : Encoded Value := do
  return .ofFields
    [("direction", .string k.direction.name),
      ("expression", ← encodeExpression skipUndefined k.expression)]

def encodeParameter (skipUndefined : Bool) : Parameter → Encoded Value
  | .expression e => encodeExpression skipUndefined e
  | .aggregate a => encodeAggregate skipUndefined a

/-- The value of a known option. -/
def encodeOption (skipUndefined : Bool) : OptionValue → Encoded Value
  | .integer n => .ok (.integer n)
  | .string s => .ok (.string s)
  | .boolean b => .ok (.boolean b)
  | .field f => .ok (.field f.path)
  | .expression e => encodeExpression skipUndefined e

end DocumentPipeline.Encoding
