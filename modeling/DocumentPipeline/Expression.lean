import DocumentPipeline.Constant
import DocumentPipeline.OrderedMap

/-!
Expressions over the fields of a row, and the things that are made of them: conditions, aggregates,
sort keys and the items of a projection. Every operator is a call of a function by name.
-/
namespace DocumentPipeline

/-- A dotted path into the current row. -/
structure Field where
  path : String
  deriving DecidableEq

namespace Field

/-- The field that holds the name of the document itself. -/
def documentName : Field := ⟨"__name__"⟩

def segments (f : Field) : List String := Text.split '.' f.path

end Field

/-- An expression. A list or a map stands for an array or a map with computed parts. -/
inductive Expression where
  | field (field : Field)
  | constant (value : Constant)
  | call (name : String) (arguments : List Expression)
  | list (items : List Expression)
  | map (entries : List (String × Expression))

/-- Named expressions, as projections and groups hold them. -/
abbrev ExpressionMap := OrderedMap Expression

instance : Inhabited Expression := ⟨.constant .null⟩

/-- An expression that is known to give a boolean. -/
structure Condition where
  expression : Expression

/-- A function over all rows. It cannot stand inside an expression. -/
structure Aggregate where
  name : String
  arguments : List Expression

inductive Direction where
  | ascending
  | descending
  deriving DecidableEq

namespace Direction

def name : Direction → String
  | .ascending => "ascending"
  | .descending => "descending"

def ofName? (name : String) : Option Direction := [ascending, descending].find? (·.name == name)

def reversed : Direction → Direction
  | .ascending => .descending
  | .descending => .ascending

end Direction

/-- An expression to sort by, with the direction. -/
structure SortKey where
  expression : Expression
  direction : Direction

def SortKey.reversed (k : SortKey) : SortKey := ⟨k.expression, k.direction.reversed⟩

/-- An item of a projection: a field under its own path, or an expression under an alias. -/
inductive Selectable where
  | field (field : Field)
  | aliased (name : String) (expression : Expression)

namespace Selectable

/-- The name of the output column. -/
def name : Selectable → String
  | .field f => f.path
  | .aliased name _ => name

def expression : Selectable → Expression
  | .field f => .field f
  | .aliased _ e => e

/-- Items by their names; of two with one name the later counts, at the place of the earlier. -/
def toMap (items : List Selectable) : ExpressionMap :=
  OrderedMap.ofList (items.map fun s => (s.name, s.expression))

/-- The item that a JSON value stands for: a text names a field, nothing else will do. -/
def ofJson? : Json → Option Selectable
  | .string name => some (.field ⟨name⟩)
  | _ => none

end Selectable

namespace Expression

/-- The path of an expression that is a field. -/
def fieldPath? : Expression → Option String
  | .field f => some f.path
  | _ => none

def ofPath (path : String) : Expression := .field ⟨path⟩

def text (s : String) : Expression := .constant (.string s)

/-- A map literal; of two entries with one key the later counts. -/
def mapLiteral (entries : List (String × Expression)) : Expression :=
  .map (OrderedMap.ofList entries)

/-- The literals of expressions that are all literals. -/
def constants? : List Expression → Option (List Constant)
  | [] => some []
  | .constant c :: rest => (constants? rest).map (c :: ·)
  | _ :: _ => none

/-- An array of the given items: a constant if all of them are, else a list. -/
def ofItems (items : List Expression) : Expression :=
  match constants? items with
  | some values => .constant (.array values)
  | none => .list items

end Expression
end DocumentPipeline
