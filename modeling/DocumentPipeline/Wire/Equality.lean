import DocumentPipeline.Wire

/-!
Equality of wire values, under which numbers are compared as numbers: NaN differs from itself and
the two zeros agree.
-/
namespace DocumentPipeline

def GeoPoint.equals (a b : GeoPoint) : Bool :=
  a.latitude.equals b.latitude && a.longitude.equals b.longitude

namespace Wire

mutual

def Value.equals : Value → Value → Bool
  | .null, .null => true
  | .boolean a, .boolean b => a == b
  | .integer a, .integer b => a == b
  | .double a, .double b => a.equals b
  | .timestamp a, .timestamp b => a == b
  | .string a, .string b => a == b
  | .bytes a, .bytes b => a == b
  | .reference a, .reference b => a == b
  | .geoPoint a, .geoPoint b => a.equals b
  | .array a, .array b => itemsEqual a b
  | .map a, .map b => fieldsEqual a b
  | .field a, .field b => a == b
  | .function f a o, .function g b p => f == g && itemsEqual a b && fieldsEqual o p
  | .pipeline a, .pipeline b => stagesEqual a b
  | _, _ => false

def itemsEqual : List Value → List Value → Bool
  | [], [] => true
  | a :: as, b :: bs => a.equals b && itemsEqual as bs
  | _, _ => false

def fieldsEqual : List (String × Value) → List (String × Value) → Bool
  | [], [] => true
  | (k, a) :: as, (l, b) :: bs => k == l && a.equals b && fieldsEqual as bs
  | _, _ => false

def stagesEqual : List Stage → List Stage → Bool
  | [], [] => true
  | a :: as, b :: bs => a.equals b && stagesEqual as bs
  | _, _ => false

def Stage.equals : Stage → Stage → Bool
  | ⟨f, a, o⟩, ⟨g, b, p⟩ => f == g && itemsEqual a b && fieldsEqual o p

end

end Wire
end DocumentPipeline
