import DocumentPipeline.Json
import DocumentPipeline.Text.Base64
import DocumentPipeline.Wire

/-!
Wire values as JSON. A value is an object of one member named for its tag; null alone is a bare
string. Empty options of a function and of a request are left out, those of a stage are not.
-/
namespace DocumentPipeline

namespace Timestamp

def toJson (t : Timestamp) : Json :=
  .ofMembers [("seconds", .ofInt64 t.seconds), ("nanos", .int t.nanos.toInt)]

end Timestamp

def GeoPoint.toJson (p : GeoPoint) : Json :=
  .ofMembers [("latitude", .ofDouble p.latitude), ("longitude", .ofDouble p.longitude)]

namespace Wire

/-- The JSON of a value with a tag. -/
def tagged (tag : String) (content : Json) : Json := .object [(tag, content)]

mutual

def Value.toJson : Value → Json
  | .null => .string "null_value"
  | .boolean b => tagged "boolean_value" (.bool b)
  | .integer n => tagged "integer_value" (.ofInt64 n)
  | .double x => tagged "double_value" (.ofDouble x)
  | .timestamp t => tagged "timestamp_value" t.toJson
  | .string s => tagged "string_value" (.string s)
  | .bytes b => tagged "bytes_value" (.string (Text.Base64.encode b))
  | .reference name => tagged "reference_value" (.string name)
  | .geoPoint p => tagged "geo_point_value" p.toJson
  | .array items => tagged "array_value" (.object [("values", .array (itemsToJson items))])
  | .map fields => tagged "map_value" (.object [("fields", .object (fieldsToJson fields))])
  | .field path => tagged "field_reference_value" (.string path)
  | .function name arguments options =>
    tagged "function_value" <| .object <|
      [("args", .array (itemsToJson arguments)), ("name", .string name)] ++
        if options.isEmpty then [] else [("options", .object (fieldsToJson options))]
  | .pipeline stages =>
    tagged "pipeline_value" (.object [("stages", .array (stagesToJson stages))])

def itemsToJson : List Value → List Json
  | [] => []
  | v :: rest => v.toJson :: itemsToJson rest

def fieldsToJson : List (String × Value) → List (String × Json)
  | [] => []
  | (key, v) :: rest => (key, v.toJson) :: fieldsToJson rest

def stagesToJson : List Stage → List Json
  | [] => []
  | s :: rest => s.toJson :: stagesToJson rest

def Stage.toJson : Stage → Json
  | ⟨name, arguments, options⟩ =>
    .object [("args", .array (itemsToJson arguments)), ("name", .string name),
      ("options", .object (fieldsToJson options))]

end

/-- The JSON of a pipeline. -/
def pipelineToJson (stages : List Stage) : Json :=
  .object [("stages", .array (stagesToJson stages))]

def StructuredPipeline.toJson (p : StructuredPipeline) : Json :=
  .object <|
    (if p.options.isEmpty then [] else [("options", .object (fieldsToJson p.options))]) ++
      [("pipeline", pipelineToJson p.stages)]

end Wire
end DocumentPipeline
