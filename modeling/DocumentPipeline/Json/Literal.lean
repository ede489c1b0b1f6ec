import DocumentPipeline.Json
import DocumentPipeline.Json.Numeral

/-!
A JSON text as it is written: members in their order, repeated names kept. `Json.ofLiteral?` takes
the value of a text, and typed documents are read from literals, because both refuse texts that are
well formed: those with a part that has no value where a value is needed.
-/
namespace DocumentPipeline.Json

/-- What a JSON text says, part by part. `refused` is a well-formed part without a value: a number
out of range, a string with half of a surrogate pair, a container nested too deep. A name without a
value is `none`. -/
inductive Literal where
  | null
  | bool (value : Bool)
  | number (value : Number)
  | string (value : String)
  | array (items : List Literal)
  | object (members : List (Option String × Literal))
  | refused

mutual

/-- The value of a literal. Of members with one name the last counts. -/
def ofLiteral? : Literal → Option Json
  | .null => some .null
  | .bool b => some (.bool b)
  | .number (.int n) => some (.int n)
  | .number (.double x) => some (.double x)
  | .string s => some (.string s)
  | .array items => (ofLiterals? items).map .array
  | .object members => (ofMembers? members []).map .object
  | .refused => none

def ofLiterals? : List Literal → Option (List Json)
  | [] => some []
  | l :: rest => do
    let item ← ofLiteral? l
    let items ← ofLiterals? rest
    return item :: items

/-- Adds members to those read before. -/
def ofMembers? : List (Option String × Literal) → FieldMap Json → Option (FieldMap Json)
  | [], before => some before
  | (name, l) :: rest, before => do
    let name ← name
    let value ← ofLiteral? l
    ofMembers? rest (before.insert name value)

end

mutual

/-- The literal that says just what a value is. -/
def toLiteral : Json → Literal
  | .null => .null
  | .bool b => .bool b
  | .int n => .number (.int n)
  | .double x => .number (.double x)
  | .string s => .string s
  | .array items => .array (toLiterals items)
  | .object members => .object (toMembers members)

def toLiterals : List Json → List Literal
  | [] => []
  | j :: rest => j.toLiteral :: toLiterals rest

def toMembers : List (String × Json) → List (Option String × Literal)
  | [] => []
  | (name, j) :: rest => (some name, j.toLiteral) :: toMembers rest

end

namespace Literal

/-- The member of a name, if there is one. Fails when the name is repeated, and when some member has
a name without a value. -/
def member? (name : String) : List (Option String × Literal) → Option (Option Literal)
  | [] => some none
  | (none, _) :: _ => none
  | (some key, l) :: rest =>
    match member? name rest with
    | none => none
    | some later =>
      if key = name then (if later.isSome then none else some (some l)) else some later

/-- The parts of a record with the given field names, one for each name: members of an object by
their name, or items of an array by their place. Members with other names are skipped, and an array
may end early but not go on. -/
def fields? (names : List String) : Literal → Option (List (Option Literal))
  | .object members => names.mapM fun name => member? name members
  | .array items =>
    if items.length ≤ names.length then
      some (items.map some ++ List.replicate (names.length - items.length) none)
    else none
  | _ => none

def string? : Literal → Option String
  | .string s => some s
  | _ => none

def double? : Literal → Option Double
  | .number (.double x) => some x
  | .number (.int n) => some (Double.ofInt n)
  | _ => none

def bool? : Literal → Option Bool
  | .bool b => some b
  | _ => none

/-- An integer of 64 bits with sign. -/
def int64? : Literal → Option Int64
  | .number (.int n) =>
    if Int64.minValue.toInt ≤ n ∧ n ≤ Int64.maxValue.toInt then some (Int64.ofInt n) else none
  | _ => none

/-- An integer of 32 bits with sign. -/
def int32? : Literal → Option Int32
  | .number (.int n) =>
    if Int32.minValue.toInt ≤ n ∧ n ≤ Int32.maxValue.toInt then some (Int32.ofInt n) else none
  | _ => none

/-- A part that may be null. -/
def nullable {α : Type} (read : Literal → Option α) : Literal → Option (Option α)
  | .null => some none
  | l => (read l).map some

end Literal
end DocumentPipeline.Json
