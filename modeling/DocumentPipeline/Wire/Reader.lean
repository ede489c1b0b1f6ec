import DocumentPipeline.Json.Literal
import DocumentPipeline.Text.Base64
import DocumentPipeline.Wire

/-!
Wire values from JSON. A value is an object with one member, named for its tag; null may also be a
bare string. The content of a tag that is a record is read by names, or by places from an array;
absent arguments, options, items and fields are empty.
-/
namespace DocumentPipeline

open Json (Literal)

def Timestamp.ofLiteral? (l : Literal) : Option Timestamp := do
  match ← l.fields? ["seconds", "nanos"] with
  | [some seconds, some nanos] => return ⟨← seconds.int64?, ← nanos.int32?⟩
  | _ => none

def GeoPoint.ofLiteral? (l : Literal) : Option GeoPoint := do
  match ← l.fields? ["latitude", "longitude"] with
  | [some latitude, some longitude] => return ⟨← latitude.double?, ← longitude.double?⟩
  | _ => none

namespace Wire

def bytes? (l : Literal) : Option (List UInt8) := do Text.Base64.decode (← l.string?)

mutual

def Value.ofLiteral? : Literal → Option Value
  | .string tag => if tag = "null_value" then some .null else none
  | .object [(some tag, content)] =>
    if tag = "null_value" then
      match content with
      | .null => some .null
      | _ => none
    else if tag = "boolean_value" then content.bool?.map .boolean
    else if tag = "integer_value" then content.int64?.map .integer
    else if tag = "double_value" then content.double?.map .double
    else if tag = "timestamp_value" then (Timestamp.ofLiteral? content).map .timestamp
    else if tag = "string_value" then content.string?.map .string
    else if tag = "bytes_value" then (bytes? content).map .bytes
    else if tag = "reference_value" then content.string?.map .reference
    else if tag = "geo_point_value" then (GeoPoint.ofLiteral? content).map .geoPoint
    else if tag = "array_value" then (arrayContent? content).map .array
    else if tag = "map_value" then (mapContent? content).map .map
    else if tag = "field_reference_value" then content.string?.map .field
    else if tag = "function_value" then
      (parts? content).map fun (name, arguments, options) => .function name arguments options
    else if tag = "pipeline_value" then (pipeline? content).map .pipeline
    else none
  | _ => none

/-- A record with the one field `values`. -/
def arrayContent? : Literal → Option (List Value)
  | .object members => (itemsMember? "values" members).map (·.getD [])
  | .array [] => some []
  | .array [values] => items? values
  | _ => none

/-- A record with the one field `fields`. -/
def mapContent? : Literal → Option (FieldMap Value)
  | .object members => (fieldsMember? "fields" members).map (·.getD [])
  | .array [] => some []
  | .array [fields] => fields? fields
  | _ => none

/-- The name, the arguments and the options of a function or a stage. -/
def parts? : Literal → Option (String × List Value × FieldMap Value)
  | .object members => do
    let name ← (← (← Literal.member? "name" members)).string?
    let arguments ← itemsMember? "args" members
    let options ← fieldsMember? "options" members
    return (name, arguments.getD [], options.getD [])
  | .array [name] => do return (← name.string?, [], [])
  | .array [name, arguments] => do return (← name.string?, ← items? arguments, [])
  | .array [name, arguments, options] => do
    return (← name.string?, ← items? arguments, ← fields? options)
  | _ => none

/-- A record with the one field `stages`, which must be there. -/
def pipeline? : Literal → Option (List Stage)
  | .object members => do (← stagesMember? "stages" members)
  | .array [stages] => stages? stages
  | _ => none

def items? : Literal → Option (List Value)
  | .array items => itemList? items
  | _ => none

def itemList? : List Literal → Option (List Value)
  | [] => some []
  | l :: rest => do
    let v ← Value.ofLiteral? l
    let vs ← itemList? rest
    return v :: vs

def fields? : Literal → Option (FieldMap Value)
  | .object members => fieldList? members []
  | _ => none

/-- Adds fields to those read before; of two with one key the later counts. -/
def fieldList? : List (Option String × Literal) → FieldMap Value → Option (FieldMap Value)
  | [], before => some before
  | (key, l) :: rest, before => do
    let key ← key
    let v ← Value.ofLiteral? l
    fieldList? rest (before.insert key v)

def stages? : Literal → Option (List Stage)
  | .array items => stageList? items
  | _ => none

def stageList? : List Literal → Option (List Stage)
  | [] => some []
  | l :: rest => do
    let (name, arguments, options) ← parts? l
    let stages ← stageList? rest
    return ⟨name, arguments, options⟩ :: stages

/-- The list of values under a name, if the name is there. -/
def itemsMember? (name : String) : List (Option String × Literal) → Option (Option (List Value))
  | [] => some none
  | (none, _) :: _ => none
  | (some key, l) :: rest => do
    let later ← itemsMember? name rest
    if key = name then
      if later.isSome then none else (items? l).map some
    else some later

/-- The map of values under a name, if the name is there. -/
def fieldsMember? (name : String) :
    List (Option String × Literal) → Option (Option (FieldMap Value))
  | [] => some none
  | (none, _) :: _ => none
  | (some key, l) :: rest => do
    let later ← fieldsMember? name rest
    if key = name then
      if later.isSome then none else (fields? l).map some
    else some later

/-- The stages under a name, if the name is there. -/
def stagesMember? (name : String) : List (Option String × Literal) → Option (Option (List Stage))
  | [] => some none
  | (none, _) :: _ => none
  | (some key, l) :: rest => do
    let later ← stagesMember? name rest
    if key = name then
      if later.isSome then none else (stages? l).map some
    else some later

end

def Stage.ofLiteral? (l : Literal) : Option Stage :=
  (parts? l).map fun (name, arguments, options) => ⟨name, arguments, options⟩

def StructuredPipeline.ofLiteral? (l : Literal) : Option StructuredPipeline := do
  match ← l.fields? ["pipeline", "options"] with
  | [some stages, options] => return ⟨← pipeline? stages, ← options.elim (some []) fields?⟩
  | _ => none

end Wire
end DocumentPipeline
