import DocumentPipeline.Decimal.Layout
import DocumentPipeline.Json
import DocumentPipeline.Reference
import DocumentPipeline.Wire

/-!
Literal values of expressions. Two of them are no values of the database: an absent value, which may
be skipped, and a field transform, which makes sense in document writes only. A wire value stands
for itself.
-/
namespace DocumentPipeline

mutual

/-- A literal value. The entries of a map keep their order, and a key may occur twice. -/
inductive Constant where
  | null
  | boolean (value : Bool)
  | integer (value : Int64)
  | double (value : Double)
  | string (value : String)
  | bytes (value : List UInt8)
  | timestamp (value : Timestamp)
  | geoPoint (value : GeoPoint)
  | vector (numbers : List Double)
  | reference (document : DocumentReference)
  | array (items : List Constant)
  | map (entries : List (String × Constant))
  | undefined
  | transform (value : Transform)
  | wire (value : Wire.Value)

/-- A change of a field that is made when a document is written. -/
inductive Transform where
  | delete
  | serverTimestamp
  | increment (amount : Constant)
  | arrayUnion (items : List Constant)
  | arrayRemove (items : List Constant)

end

instance : Inhabited Constant := ⟨.null⟩

/-- The name of a transform in messages. -/
def Transform.name : Transform → String
  | .delete => "FieldTransform::Delete"
  | .serverTimestamp => "FieldTransform::ServerTimestamp"
  | .increment _ => "FieldTransform::Increment"
  | .arrayUnion _ => "FieldTransform::ArrayUnion"
  | .arrayRemove _ => "FieldTransform::ArrayRemove"

namespace Constant

/-- The name of the type of a constant in messages. -/
def typeName : Constant → String
  | .null => "null"
  | .boolean _ => "boolean"
  | .integer _ => "integer"
  | .double _ => "double"
  | .string _ => "string"
  | .bytes _ => "bytes"
  | .timestamp _ => "timestamp"
  | .geoPoint _ => "geo point"
  | .vector _ => "vector"
  | .reference _ => "reference"
  | .array _ => "array"
  | .map _ => "map"
  | .undefined => "undefined"
  | .transform _ => "field transform"
  | .wire _ => "wire value"

/-- A short text for a reader: containers by their size, strings in quotes without escapes. -/
def display : Constant → String
  | .null => "null"
  | .boolean b => if b then "true" else "false"
  | .integer n => toString n.toInt
  | .double x => Layout.plain.write x
  | .string s => "\"" ++ s ++ "\""
  | .bytes b => s!"<{b.length} bytes>"
  | .timestamp t => t.text
  | .geoPoint p =>
    "GeoPoint(" ++ Layout.plain.write p.latitude ++ ", " ++ Layout.plain.write p.longitude ++ ")"
  | .vector numbers => "Vector([" ++ ", ".intercalate (numbers.map Layout.element.write) ++ "])"
  | .reference d => "DocumentReference(" ++ d.path ++ ")"
  | .array items => s!"<array of {items.length}>"
  | .map entries => s!"<map of {entries.length}>"
  | .undefined => "undefined"
  | .transform t => t.name
  | .wire _ => "<wire value>"

def isUndefined : Constant → Bool
  | .undefined => true
  | _ => false

def isNaN : Constant → Bool
  | .double x => x.isNaN
  | _ => false

mutual

/-- The constant of a JSON value. An integer beyond 63 bits becomes a double. -/
def ofJson : Json → Constant
  | .null => .null
  | .bool b => .boolean b
  | .int n =>
    if Int64.minValue.toInt ≤ n ∧ n ≤ Int64.maxValue.toInt then .integer (Int64.ofInt n)
    else .double (Double.ofInt n)
  | .double x => .double x
  | .string s => .string s
  | .array items => .array (ofItems items)
  | .object members => .map (ofMembers members)

def ofItems : List Json → List Constant
  | [] => []
  | j :: rest => ofJson j :: ofItems rest

def ofMembers : List (String × Json) → List (String × Constant)
  | [] => []
  | (key, j) :: rest => (key, ofJson j) :: ofMembers rest

end

end Constant
end DocumentPipeline
