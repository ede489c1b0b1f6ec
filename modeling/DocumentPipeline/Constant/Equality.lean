import DocumentPipeline.Constant
import DocumentPipeline.Wire.Equality

/-!
Equality of constants, with numbers compared as numbers. The entries of a map are compared in their
order.
-/
namespace DocumentPipeline

def Double.listEquals : List Double → List Double → Bool
  | [], [] => true
  | x :: xs, y :: ys => x.equals y && listEquals xs ys
  | _, _ => false

mutual

def Constant.equals : Constant → Constant → Bool
  | .null, .null => true
  | .boolean a, .boolean b => a == b
  | .integer a, .integer b => a == b
  | .double a, .double b => a.equals b
  | .string a, .string b => a == b
  | .bytes a, .bytes b => a == b
  | .timestamp a, .timestamp b => a == b
  | .geoPoint a, .geoPoint b => a.equals b
  | .vector a, .vector b => Double.listEquals a b
  | .reference a, .reference b => a == b
  | .array a, .array b => Constant.itemsEqual a b
  | .map a, .map b => Constant.entriesEqual a b
  | .undefined, .undefined => true
  | .transform a, .transform b => a.equals b
  | .wire a, .wire b => a.equals b
  | _, _ => false

def Constant.itemsEqual : List Constant → List Constant → Bool
  | [], [] => true
  | a :: as, b :: bs => a.equals b && Constant.itemsEqual as bs
  | _, _ => false

def Constant.entriesEqual : List (String × Constant) → List (String × Constant) → Bool
  | [], [] => true
  | (k, a) :: as, (l, b) :: bs => k == l && a.equals b && Constant.entriesEqual as bs
  | _, _ => false

def Transform.equals : Transform → Transform → Bool
  | .delete, .delete => true
  | .serverTimestamp, .serverTimestamp => true
  | .increment a, .increment b => a.equals b
  | .arrayUnion a, .arrayUnion b => Constant.itemsEqual a b
  | .arrayRemove a, .arrayRemove b => Constant.itemsEqual a b
  | _, _ => false

end

end DocumentPipeline
