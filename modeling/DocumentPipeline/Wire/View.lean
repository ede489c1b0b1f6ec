import DocumentPipeline.Json
import DocumentPipeline.Text.Base64
import DocumentPipeline.Wire

/-!
Results as plain JSON, without tags: times as text, bytes in base 64, vectors as arrays of numbers.
The tags of computations keep only a trace.
-/
namespace DocumentPipeline

def GeoPoint.view (p : GeoPoint) : Json :=
  .ofMembers [("latitude", .ofDouble p.latitude), ("longitude", .ofDouble p.longitude)]

namespace Wire

mutual

/-- The plain JSON of a value. A double without a text becomes null. -/
def Value.view : Value → Json
  | .null => .null
  | .boolean b => .bool b
  | .integer n => .ofInt64 n
  | .double x => .ofDouble x
  | .timestamp t => .string t.text
  | .string s => .string s
  | .bytes b => .string (Text.Base64.encode b)
  | .reference name => .string name
  | .geoPoint p => p.view
  | .array items => .array (itemsView items)
  | .map fields =>
    match Value.vectorNumbers? fields with
    | some numbers => .array (numbers.map .ofDouble)
    | none => .object (fieldsView fields)
  | .field path => .string path
  | .function name _ _ => .string (name ++ "(...)")
  | .pipeline _ => .null

def itemsView : List Value → List Json
  | [] => []
  | v :: rest => v.view :: itemsView rest

def fieldsView : List (String × Value) → List (String × Json)
  | [] => []
  | (key, v) :: rest => (key, v.view) :: fieldsView rest

end

end Wire
end DocumentPipeline
