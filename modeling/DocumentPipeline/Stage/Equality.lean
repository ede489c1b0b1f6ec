import DocumentPipeline.Expression.Equality
import DocumentPipeline.Stage

/-!
Equality of stages and pipelines, with numbers compared as numbers and maps in their order.
-/
namespace DocumentPipeline

def optionEquals {α : Type} (eq : α → α → Bool) : Option α → Option α → Bool
  | none, none => true
  | some a, some b => eq a b
  | _, _ => false

def listEquals {α : Type} (eq : α → α → Bool) : List α → List α → Bool
  | [], [] => true
  | a :: as, b :: bs => eq a b && listEquals eq as bs
  | _, _ => false

def SampleRate.equals : SampleRate → SampleRate → Bool
  | .documents a, .documents b => a == b
  | .percent a, .percent b => a.equals b
  | _, _ => false

def NearestSearch.equals (a b : NearestSearch) : Bool :=
  a.field == b.field && a.vector.equals b.vector && a.measure == b.measure && a.limit == b.limit &&
    a.distanceField == b.distanceField

def Parameter.equals : Parameter → Parameter → Bool
  | .expression a, .expression b => a.equals b
  | .aggregate a, .aggregate b => a.equals b
  | _, _ => false

mutual

def StageBody.equals : StageBody → StageBody → Bool
  | .collection a i, .collection b j => a == b && i == j
  | .collectionGroup a i, .collectionGroup b j => a == b && i == j
  | .database, .database => true
  | .documents a, .documents b => a == b
  | .addFields a, .addFields b => Expression.entriesEqual a b
  | .removeFields a, .removeFields b => a == b
  | .select a, .select b => Expression.entriesEqual a b
  | .filter a, .filter b => a.equals b
  | .offset a, .offset b => a == b
  | .limit a, .limit b => a == b
  | .distinct a, .distinct b => Expression.entriesEqual a b
  | .aggregate a g, .aggregate b h =>
    listEquals (fun x y => x.1 == y.1 && x.2.equals y.2) a b && Expression.entriesEqual g h
  | .findNearest a, .findNearest b => a.equals b
  | .replaceWith a, .replaceWith b => a.equals b
  | .sample a, .sample b => a.equals b
  | .union a, .union b => a.equals b
  | .unnest a n i, .unnest b m j => a.equals b && n == m && i == j
  | .sort a, .sort b => listEquals SortKey.equals a b
  | .mutation a s, .mutation b t => a == b && s == t
  | .custom n a, .custom m b => n == m && listEquals Parameter.equals a b
  | _, _ => false

def Stage.equals : Stage → Stage → Bool
  | ⟨a, o⟩, ⟨b, p⟩ => a.equals b && Expression.entriesEqual o p

def Stage.listEquals : List Stage → List Stage → Bool
  | [], [] => true
  | a :: as, b :: bs => a.equals b && Stage.listEquals as bs
  | _, _ => false

def Pipeline.equals : Pipeline → Pipeline → Bool
  | ⟨d, a, as, m⟩, ⟨e, b, bs, n⟩ => d == e && m == n && a.equals b && Stage.listEquals as bs

end

end DocumentPipeline
