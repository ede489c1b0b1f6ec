import DocumentPipeline.Expression.Operators

/-!
Filters of a query and the conditions they stand for. A comparison never holds for a row without the
field, so its condition asks for the field first; equality with null or NaN has conditions of its
own, which do so themselves.
-/
namespace DocumentPipeline

inductive FilterOperator where
  | equal
  | notEqual
  | lessThan
  | lessThanOrEqual
  | greaterThan
  | greaterThanOrEqual
  | arrayContains
  | arrayContainsAny
  | isIn
  | notIn
  deriving DecidableEq

/-- The name of an operator in messages. -/
def FilterOperator.name : FilterOperator → String
  | .equal => "Equal"
  | .notEqual => "NotEqual"
  | .lessThan => "LessThan"
  | .lessThanOrEqual => "LessThanOrEqual"
  | .greaterThan => "GreaterThan"
  | .greaterThanOrEqual => "GreaterThanOrEqual"
  | .arrayContains => "ArrayContains"
  | .arrayContainsAny => "ArrayContainsAny"
  | .isIn => "In"
  | .notIn => "NotIn"

def FilterOperator.ofName? (name : String) : Option FilterOperator :=
  [equal, notEqual, lessThan, lessThanOrEqual, greaterThan, greaterThanOrEqual, arrayContains,
    arrayContainsAny, isIn, notIn].find? (·.name == name)

inductive Junction where
  | all
  | any
  deriving DecidableEq

/-- A comparison of a field with a literal, or several filters of which all or any must hold. -/
inductive Filter where
  | field (field : Field) (operator : FilterOperator) (value : Constant)
  | composite (junction : Junction) (filters : List Filter)

/-- Why a filter stands for no condition. -/
inductive FilterFault where
  | noFilters
  | arrayRequired (operator : FilterOperator) (field : Field) (typeName : String)
  deriving DecidableEq

def FilterFault.message : FilterFault → String
  | .noFilters => "composite filter requires at least one filter"
  | .arrayRequired op f typeName =>
    op.name ++ " filter on '" ++ f.path ++ "' requires an array value, got " ++ typeName

/-- Operators with several values take them from an array. -/
def FilterOperator.takesArray : FilterOperator → Bool
  | .arrayContainsAny | .isIn | .notIn => true
  | _ => false

/-- The comparison of an operator by itself. -/
def FilterOperator.compare (op : FilterOperator) (target value : Expression) : Condition :=
  match op with
  | .equal => target.equal value
  | .notEqual => target.notEqual value
  | .lessThan => target.lessThan value
  | .lessThanOrEqual => target.lessThanOrEqual value
  | .greaterThan => target.greaterThan value
  | .greaterThanOrEqual => target.greaterThanOrEqual value
  | .arrayContains => target.arrayContains value
  | .arrayContainsAny => target.arrayContainsAny value
  | .isIn => target.equalAny value
  | .notIn => target.notEqualAny value

def Constant.isArray : Constant → Bool
  | .array _ => true
  | _ => false

def Constant.isNull : Constant → Bool
  | .null => true
  | _ => false

namespace Filter

/-- The condition of a comparison. -/
def fieldCondition (f : Field) (op : FilterOperator) (value : Constant) :
    Except FilterFault Condition :=
  let target : Expression := .field f
  if op = .equal ∧ value.isNull then .ok target.isNull
  else if op = .notEqual ∧ value.isNull then .ok target.isNotNull
  else if op = .equal ∧ value.isNaN then .ok target.isNaN
  else if op = .notEqual ∧ value.isNaN then .ok target.isNotNaN
  else if op.takesArray ∧ ¬value.isArray then .error (.arrayRequired op f value.typeName)
  else .ok (.all [target.isPresent, op.compare target (.constant value)])

/-- Conditions joined; a single one stands for itself. -/
def join (junction : Junction) : List Condition → Except FilterFault Condition
  | [] => .error .noFilters
  | [c] => .ok c
  | cs =>
    match junction with
    | .all => .ok (.all cs)
    | .any => .ok (.any cs)

mutual

/-- The condition that a filter stands for. -/
def toCondition : Filter → Except FilterFault Condition
  | .field f op value => fieldCondition f op value
  | .composite junction filters => do join junction (← toConditions filters)

def toConditions : List Filter → Except FilterFault (List Condition)
  | [] => .ok []
  | f :: rest => do
    let c ← f.toCondition
    let cs ← toConditions rest
    return c :: cs

end

end Filter
end DocumentPipeline
