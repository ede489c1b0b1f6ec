import DocumentPipeline.Expression

/-!
Options of a stage: those that the library knows, each with a name, a name on the wire and a kind,
and raw options, which a caller may set to any expression. The key of a raw option may be a dotted
path into nested maps.
-/
namespace DocumentPipeline

/-- Kinds of values that a known option may take. -/
inductive OptionKind where
  | integer
  | string
  | boolean
  | fieldReference
  | expression
  deriving DecidableEq

/-- The name of a kind in messages. -/
def OptionKind.name : OptionKind → String
  | .integer => "Integer"
  | .string => "String"
  | .boolean => "Boolean"
  | .fieldReference => "FieldReference"
  | .expression => "Expression"

def OptionKind.ofName? (name : String) : Option OptionKind :=
  [integer, string, boolean, fieldReference, expression].find? (·.name == name)

/-- An option that the library knows. -/
structure KnownOption where
  name : String
  wireName : String
  kind : OptionKind
  deriving DecidableEq

/-- The value that a known option is set to. -/
inductive OptionValue where
  | integer (value : Int64)
  | string (value : String)
  | boolean (value : Bool)
  | field (field : Field)
  | expression (value : Expression)

def OptionValue.kind : OptionValue → OptionKind
  | .integer _ => .integer
  | .string _ => .string
  | .boolean _ => .boolean
  | .field _ => .fieldReference
  | .expression _ => .expression

/-- Known options that are set, by their names. -/
abbrev ComputedOptions := List (String × OptionValue)

/-- Raw options in the order in which their keys were first set. -/
abbrev RawOptions := OrderedMap Expression

namespace RawOptions

/-- The raw options that a JSON value stands for: the members of an object; none for null. -/
def ofJson? : Json → Option RawOptions
  | .null => some []
  | .object members =>
    some (OrderedMap.ofList (members.map fun (k, j) => (k, .constant (.ofJson j))))
  | _ => none

end RawOptions
end DocumentPipeline
