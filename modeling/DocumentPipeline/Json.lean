import DocumentPipeline.Double
import DocumentPipeline.FieldMap

/-!
JSON values. Integers and doubles are kept apart; the members of an object are sorted by name.
-/
namespace DocumentPipeline

/-- A JSON value. A number without fraction and exponent that fits 64 bits is an `int`. -/
inductive Json where
  | null
  | bool (value : Bool)
  | int (value : Int)
  | double (value : Double)
  | string (value : String)
  | array (items : List Json)
  | object (members : List (String × Json))
  deriving Inhabited

namespace Json

/-- JSON has no text for NaN and the infinities; they are written as null. -/
def ofDouble (x : Double) : Json :=
  if x.isFinite then .double x else .null

def ofInt64 (n : Int64) : Json := .int n.toInt

def ofNat (n : Nat) : Json := .int n

/-- An object of the given members, sorted by name. -/
def ofMembers (members : List (String × Json)) : Json :=
  .object (FieldMap.ofList members)

/-- An optional member, left out when absent. -/
def optional (name : String) : Option Json → List (String × Json)
  | none => []
  | some value => [(name, value)]

end Json
end DocumentPipeline
