import DocumentPipeline.Double
import DocumentPipeline.FieldMap
import DocumentPipeline.Timestamp

/-!
The wire form of a pipeline: stages with a name, arguments and options, over tagged values. Maps are
sorted by key. A vector has no tag of its own; it is a map that `vector` builds and `vector?`
recognises.
-/
namespace DocumentPipeline

/-- A place on earth in degrees. -/
structure GeoPoint where
  latitude : Double
  longitude : Double
  deriving DecidableEq

namespace Wire

mutual

/-- A tagged value. The last three tags stand for computations and never come back in results. -/
inductive Value where
  | null
  | boolean (value : Bool)
  | integer (value : Int64)
  | double (value : Double)
  | timestamp (value : Timestamp)
  | string (value : String)
  | bytes (value : List UInt8)
  | reference (name : String)
  | geoPoint (value : GeoPoint)
  | array (items : List Value)
  | map (fields : List (String × Value))
  | field (path : String)
  | function (name : String) (arguments : List Value) (options : List (String × Value))
  | pipeline (stages : List Stage)

/-- A stage as it is sent. -/
structure Stage where
  name : String
  arguments : List Value
  options : List (String × Value)

end

instance : Inhabited Value := ⟨.null⟩

/-- A pipeline with the options of the request. -/
structure StructuredPipeline where
  stages : List Stage
  options : FieldMap Value

/-- The key and the text that mark a map as a vector, and the key of its numbers. -/
def vectorTypeKey : String := "__type__"

def vectorType : String := "__vector__"

def vectorValueKey : String := "value"

namespace Value

/-- A map of the given fields, sorted by key. -/
def ofFields (fields : List (String × Value)) : Value := .map (FieldMap.ofList fields)

/-- A function without options. -/
def call (name : String) (arguments : List Value) : Value := .function name arguments []

def vector (numbers : List Double) : Value :=
  ofFields [(vectorTypeKey, .string vectorType), (vectorValueKey, .array (numbers.map .double))]

def function? : Value → Option (String × List Value × FieldMap Value)
  | .function name arguments options => some (name, arguments, options)
  | _ => none

def field? : Value → Option String
  | .field path => some path
  | _ => none

def map? : Value → Option (FieldMap Value)
  | .map fields => some fields
  | _ => none

def array? : Value → Option (List Value)
  | .array items => some items
  | _ => none

def string? : Value → Option String
  | .string s => some s
  | _ => none

def integer? : Value → Option Int64
  | .integer n => some n
  | _ => none

/-- A number of a vector, which may be written as an integer. -/
def number? : Value → Option Double
  | .double x => some x
  | .integer n => some (Double.ofInt n.toInt)
  | _ => none

/-- The numbers of the fields of a vector: the mark must be there and every item a number. -/
def vectorNumbers? (fields : FieldMap Value) : Option (List Double) := do
  let mark ← (← fields.get? vectorTypeKey).string?
  guard (mark = vectorType)
  (← (← fields.get? vectorValueKey).array?).mapM number?

def vector? (v : Value) : Option (List Double) := do vectorNumbers? (← v.map?)

end Value
end Wire
end DocumentPipeline
