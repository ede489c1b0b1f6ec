import DocumentPipeline.Expression

/-!
What a caller may put where an expression is wanted. The two places differ for text: as an operand,
on the left of an operator, it names a field; as a value, on the right, it is itself. Expressions go
through as they are and all other literals become constants.
-/
namespace DocumentPipeline

/-- An argument before its place is known. -/
inductive Argument where
  | text (s : String)
  | literal (value : Constant)
  | items (items : List Expression)
  | expression (e : Expression)

namespace Argument

/-- The expression of an argument on the right of an operator. -/
def asValue : Argument → Expression
  | .text s => .text s
  | .literal c => .constant c
  | .items es => .ofItems es
  | .expression e => e

/-- The expression of an argument on the left of an operator. -/
def asOperand : Argument → Expression
  | .text s => .ofPath s
  | a => a.asValue

end Argument

/-- An argument where a vector is wanted: text names a field, numbers are a constant. -/
inductive VectorArgument where
  | text (s : String)
  | numbers (xs : List Double)
  | expression (e : Expression)

def VectorArgument.toExpression : VectorArgument → Expression
  | .text s => .ofPath s
  | .numbers xs => .constant (.vector xs)
  | .expression e => e

end DocumentPipeline
