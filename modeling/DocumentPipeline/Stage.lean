import DocumentPipeline.Expression
import DocumentPipeline.Options
import DocumentPipeline.Reference

/-!
Pipelines: a source stage and the stages that follow it, each with its raw options. A pipeline may
be part of another one through a union.
-/
namespace DocumentPipeline

inductive DistanceMeasure where
  | euclidean
  | cosine
  | dotProduct
  deriving DecidableEq

def DistanceMeasure.name : DistanceMeasure → String
  | .euclidean => "euclidean"
  | .cosine => "cosine"
  | .dotProduct => "dot_product"

def DistanceMeasure.ofName? (name : String) : Option DistanceMeasure :=
  [euclidean, cosine, dotProduct].find? (·.name == name)

/-- How many rows a sample takes: a count of documents or a percentage. -/
inductive SampleRate where
  | documents (count : Int64)
  | percent (rate : Double)
  deriving DecidableEq

namespace SampleRate

def mode : SampleRate → String
  | .documents _ => "documents"
  | .percent _ => "percent"

def rate : SampleRate → Double
  | .documents n => Double.ofInt n.toInt
  | .percent x => x

end SampleRate

/-- A search for the rows whose vector is nearest to a given one. -/
structure NearestSearch where
  field : Field
  vector : Expression
  measure : DistanceMeasure
  limit : Option Int64
  /-- The output field that takes the distance. -/
  distanceField : Option Field

/-- What a stage writes to the database for each row. -/
inductive Mutation where
  | delete
  | upsert
  | insert
  deriving DecidableEq

/-- An argument of a stage that the library does not know. -/
inductive Parameter where
  | expression (e : Expression)
  | aggregate (a : Aggregate)

/-- The parameter that a JSON value stands for: an object is a map literal, all else a constant. -/
def Parameter.ofJson : Json → Parameter
  | .object members =>
    .expression (.mapLiteral (members.map fun (k, j) => (k, .constant (.ofJson j))))
  | j => .expression (.constant (.ofJson j))

mutual

/-- What a stage does. -/
inductive StageBody where
  | collection (reference : CollectionReference) (forceIndex : Option String)
  | collectionGroup (id : String) (forceIndex : Option String)
  | database
  | documents (documents : List DocumentReference)
  | addFields (fields : ExpressionMap)
  | removeFields (fields : List Field)
  | select (selections : ExpressionMap)
  | filter (condition : Condition)
  | offset (count : Int64)
  | limit (count : Int64)
  | distinct (groups : ExpressionMap)
  | aggregate (accumulators : OrderedMap Aggregate) (groups : ExpressionMap)
  | findNearest (search : NearestSearch)
  | replaceWith (map : Expression)
  | sample (rate : SampleRate)
  | union (other : Pipeline)
  | unnest (expression : Expression) (name : String) (indexField : Option Field)
  | sort (keys : List SortKey)
  | mutation (kind : Mutation) (target : Option CollectionReference)
  | custom (name : String) (parameters : List Parameter)

structure Stage where
  body : StageBody
  rawOptions : RawOptions

/-- A source and the stages after it, on one database. They are counted as they are added. -/
structure Pipeline where
  database : DatabaseId
  source : Stage
  later : List Stage
  count : Nat

end

namespace StageBody

/-- The name of a stage on the wire. -/
def name : StageBody → String
  | .collection .. => "collection"
  | .collectionGroup .. => "collection_group"
  | .database => "database"
  | .documents _ => "documents"
  | .addFields _ => "add_fields"
  | .removeFields _ => "remove_fields"
  | .select _ => "select"
  | .filter _ => "where"
  | .offset _ => "offset"
  | .limit _ => "limit"
  | .distinct _ => "distinct"
  | .aggregate .. => "aggregate"
  | .findNearest _ => "find_nearest"
  | .replaceWith _ => "replace_with"
  | .sample _ => "sample"
  | .union _ => "union"
  | .unnest .. => "unnest"
  | .sort _ => "sort"
  | .mutation .delete _ => "delete"
  | .mutation .upsert _ => "upsert"
  | .mutation .insert _ => "insert"
  | .custom name _ => name

/-- The builder that a message about a stage names. -/
def methodName : StageBody → String
  | .collection .. => "PipelineSource::collection"
  | .collectionGroup .. => "PipelineSource::collection_group"
  | .database => "PipelineSource::database"
  | .documents _ => "PipelineSource::documents"
  | .addFields _ => "Pipeline::add_fields"
  | .removeFields _ => "Pipeline::remove_fields"
  | .select _ => "Pipeline::select"
  | .filter _ => "Pipeline::where"
  | .offset _ => "Pipeline::offset"
  | .limit _ => "Pipeline::limit"
  | .distinct _ => "Pipeline::distinct"
  | .aggregate .. => "Pipeline::aggregate"
  | .findNearest _ => "Pipeline::find_nearest"
  | .replaceWith _ => "Pipeline::replace_with"
  | .sample _ => "Pipeline::sample"
  | .union _ => "Pipeline::union"
  | .unnest .. => "Pipeline::unnest"
  | .sort _ => "Pipeline::sort"
  | .mutation .delete _ => "Pipeline::delete"
  | .mutation .upsert _ => "Pipeline::upsert"
  | .mutation .insert _ => "Pipeline::insert"
  | .custom .. => "Pipeline::raw_stage"

/-- The options that a stage knows. -/
def knownOptions : StageBody → List KnownOption
  | .collection .. | .collectionGroup .. => [⟨"forceIndex", "force_index", .string⟩]
  | .findNearest _ =>
    [⟨"limit", "limit", .integer⟩, ⟨"distanceField", "distance_field", .fieldReference⟩]
  | .unnest .. => [⟨"indexField", "index_field", .fieldReference⟩]
  | _ => []

/-- The known options that are set on a stage. -/
def computedOptions : StageBody → ComputedOptions
  | .collection _ forceIndex | .collectionGroup _ forceIndex =>
    (forceIndex.map fun index => ("forceIndex", .string index)).toList
  | .findNearest search =>
    (search.limit.map fun n => ("limit", .integer n)).toList ++
      (search.distanceField.map fun f => ("distanceField", .field f)).toList
  | .unnest _ _ indexField => (indexField.map fun f => ("indexField", .field f)).toList
  | _ => []

/-- The named expressions of a stage; those of an aggregation are its groups. -/
def selections? : StageBody → Option ExpressionMap
  | .addFields entries | .select entries | .distinct entries | .aggregate _ entries => some entries
  | _ => none

end StageBody

namespace Stage

def name (s : Stage) : String := s.body.name

def methodName (s : Stage) : String := s.body.methodName

end Stage

namespace Pipeline

def stages (p : Pipeline) : List Stage := p.source :: p.later

/-- The number of stages, as it was counted. -/
def length (p : Pipeline) : Nat := p.count

def isEmpty (p : Pipeline) : Bool := p.count == 0

/-- The stage that was added last. -/
def last (p : Pipeline) : Stage := p.later.getLastD p.source

/-- The pipeline with one stage more. -/
def append (p : Pipeline) (body : StageBody) (rawOptions : RawOptions) : Pipeline :=
  { p with later := p.later ++ [⟨body, rawOptions⟩], count := p.count + 1 }

end Pipeline
end DocumentPipeline
