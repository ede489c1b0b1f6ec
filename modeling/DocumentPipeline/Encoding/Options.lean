import DocumentPipeline.Encoding
import DocumentPipeline.Text.Split

/-!
The options of a stage on the wire. The known options that are set come first, under their wire
names. Then each raw option is laid over them at its dotted path: maps are made on the way, in place
of any other value that stands there, and the value at the end of the path is replaced.
-/
namespace DocumentPipeline.Encoding

open Wire (Value)

/-- The fields of a value; a value that is no map has none. -/
def fieldsOf : Option Value → FieldMap Value
  | some (.map fields) => fields
  | _ => []

/-- Sets a value at a path of segments. The flag says whether a value stood at the whole path. -/
def setPath (value : Value) : List String → FieldMap Value → FieldMap Value × Bool
  | [], m => (m, false)
  | [key], m => (m.insert key value, (m.get? key).isSome)
  | key :: rest, m =>
    let (inner, replaced) := setPath value rest (fieldsOf (m.get? key))
    (m.insert key (.map inner), replaced)

/-- A raw option that was applied, and whether it replaced a value. -/
structure Override where
  stage : String
  key : String
  replaced : Bool
  deriving DecidableEq

/-- The place that a stage takes among messages about its options, and the options it knows. -/
structure OptionScope where
  stage : String
  known : List KnownOption

namespace OptionScope
variable (scope : OptionScope) (skipUndefined : Bool)

/-- Adds a known option under its wire name. -/
def addComputed (m : FieldMap Value) (name : String) (value : OptionValue) :
    Except PipelineError (FieldMap Value) := do
  match scope.known.find? (·.name == name) with
  | none => throw (.internal (.unknownOption scope.stage name))
  | some known =>
    if value.kind ≠ known.kind then
      throw (.internal (.optionKind scope.stage name known.kind value.kind))
    let v ← (encodeOption skipUndefined value).mapError .ofEncoding
    return m.insert known.wireName v

/-- The known options that are set. -/
def mergeComputed (computed : ComputedOptions) : Except PipelineError (FieldMap Value) :=
  computed.foldlM (fun m (name, value) => scope.addComputed skipUndefined m name value) []

/-- Lays a raw option over the options merged before. -/
def applyRaw (m : FieldMap Value) (key : String) (e : Expression) :
    Except PipelineError (FieldMap Value × Bool) := do
  let v ← (encodeExpression skipUndefined e).mapError fun fault =>
    .serialization (.option scope.stage key fault)
  let segments := Text.split '.' key
  if "" ∈ segments then throw (.invalidArgument (.emptyOptionSegment key))
  return setPath v segments m

def mergeRaw : RawOptions → FieldMap Value → Except PipelineError (FieldMap Value)
  | [], m => .ok m
  | (key, e) :: rest, m => do
    let (m, _) ← scope.applyRaw skipUndefined m key e
    mergeRaw rest m

/-- The options of a stage: the known ones that are set, overridden by the raw ones. -/
def merge (computed : ComputedOptions) (raw : RawOptions) :
    Except PipelineError (FieldMap Value) := do
  scope.mergeRaw skipUndefined raw (← scope.mergeComputed skipUndefined computed)

/-- The raw options that are applied, up to the first that cannot be. -/
def rawOverrides : RawOptions → FieldMap Value → List Override
  | [], _ => []
  | (key, e) :: rest, m =>
    match scope.applyRaw skipUndefined m key e with
    | .error _ => []
    | .ok (m, replaced) => ⟨scope.stage, key, replaced⟩ :: rawOverrides rest m

/-- What a merge reports, also one that fails in the end. -/
def overrides (computed : ComputedOptions) (raw : RawOptions) : List Override :=
  match scope.mergeComputed skipUndefined computed with
  | .error _ => []
  | .ok m => scope.rawOverrides skipUndefined raw m

end OptionScope
end DocumentPipeline.Encoding
