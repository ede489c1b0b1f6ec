import DocumentPipeline.Constant.Equality
import DocumentPipeline.Expression

/-!
Equality of expressions and of what is made of them. The entries of a map are compared in their
order.
-/
namespace DocumentPipeline

mutual

def Expression.equals : Expression → Expression → Bool
  | .field a, .field b => a == b
  | .constant a, .constant b => a.equals b
  | .call f a, .call g b => f == g && Expression.itemsEqual a b
  | .list a, .list b => Expression.itemsEqual a b
  | .map a, .map b => Expression.entriesEqual a b
  | _, _ => false

def Expression.itemsEqual : List Expression → List Expression → Bool
  | [], [] => true
  | a :: as, b :: bs => a.equals b && Expression.itemsEqual as bs
  | _, _ => false

def Expression.entriesEqual : List (String × Expression) → List (String × Expression) → Bool
  | [], [] => true
  | (k, a) :: as, (l, b) :: bs => k == l && a.equals b && Expression.entriesEqual as bs
  | _, _ => false

end

def Condition.equals (a b : Condition) : Bool := a.expression.equals b.expression

def Aggregate.equals (a b : Aggregate) : Bool :=
  a.name == b.name && Expression.itemsEqual a.arguments b.arguments

def SortKey.equals (a b : SortKey) : Bool :=
  a.expression.equals b.expression && a.direction == b.direction

end DocumentPipeline
