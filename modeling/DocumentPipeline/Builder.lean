import DocumentPipeline.Error
import DocumentPipeline.Stage

/-!
Building pipelines. A pipeline begins at a source and grows by a stage at a time; the pipeline that
it grows from stays as it is. Whatever a stage refers to has to belong to the database of the
pipeline, and a call that would build a malformed stage fails.
-/
namespace DocumentPipeline

/-- A collection given by its path or as a reference. -/
inductive CollectionTarget where
  | path (path : String)
  | reference (collection : CollectionReference)

/-- A document given by its path or as a reference. -/
inductive DocumentTarget where
  | path (path : String)
  | reference (document : DocumentReference)

/-- The collection that a target means in a database. -/
def CollectionTarget.resolve (db : DatabaseId) :
    CollectionTarget → Except PipelineError CollectionReference
  | .path text => (CollectionReference.ofPath db text).mapError .ofPath
  | .reference c => do
    db.require c.database
    return c

/-- The document that a target means in a database. -/
def DocumentTarget.resolve (db : DatabaseId) :
    DocumentTarget → Except PipelineError DocumentReference
  | .path text => (DocumentReference.ofPath db text).mapError .ofPath
  | .reference d => do
    db.require d.database
    return d

/-- A number of rows as a stage holds it. -/
def widen (count : UInt32) : Int64 := Int64.ofNat count.toNat

/-- A search that is asked for, with the number of rows it is asked for. -/
structure NearestRequest where
  field : Field
  vector : Expression
  measure : DistanceMeasure
  limit : Option UInt32
  distanceField : Option Field

def NearestRequest.search (r : NearestRequest) : NearestSearch :=
  ⟨r.field, r.vector, r.measure, r.limit.map widen, r.distanceField⟩

/-- How many rows a sample is asked for; exactly one of the two must be given. -/
structure SampleRequest where
  documents : Option UInt32
  percentage : Option Double

def SampleRequest.rate (r : SampleRequest) : Except ArgumentFault SampleRate :=
  match r.documents, r.percentage with
  | some n, none => .ok (.documents (widen n))
  | none, some x => if x.isFiniteNonnegative then .ok (.percent x) else .error (.samplePercentage x)
  | some _, some _ => .error .sampleTwice
  | none, none => .error .sampleNothing

namespace Pipeline

/-- A pipeline of one stage. -/
def start (db : DatabaseId) (body : StageBody) (raw : RawOptions) : Pipeline :=
  ⟨db, ⟨body, raw⟩, [], 1⟩

/-! Sources -/

/-- All documents of a collection. -/
def ofCollection (db : DatabaseId) (target : CollectionTarget) (forceIndex : Option String)
    (raw : RawOptions) : Except PipelineError Pipeline := do
  let c ← target.resolve db
  return start db (.collection c forceIndex) raw

/-- All documents of the collections with an id, wherever they are. -/
def ofCollectionGroup (db : DatabaseId) (id : String) (forceIndex : Option String)
    (raw : RawOptions) : Except PipelineError Pipeline :=
  if id = "" ∨ '/' ∈ id.toList then .error (.invalidArgument (.collectionId id))
  else .ok (start db (.collectionGroup id forceIndex) raw)

/-- All documents of the database. -/
def ofDatabase (db : DatabaseId) (raw : RawOptions) : Pipeline := start db .database raw

/-- The documents of a list. -/
def ofDocuments (db : DatabaseId) (targets : List DocumentTarget) (raw : RawOptions) :
    Except PipelineError Pipeline := do
  if targets.isEmpty then throw (.invalidArgument .noDocuments)
  let documents ← targets.mapM (·.resolve db)
  return start db (.documents documents) raw

/-! Stages -/

variable (p : Pipeline)

def addFields (fields : List Selectable) (raw : RawOptions) : Pipeline :=
  p.append (.addFields (Selectable.toMap fields)) raw

def removeFields (fields : List Field) (raw : RawOptions) : Pipeline :=
  p.append (.removeFields fields) raw

def select (selections : List Selectable) (raw : RawOptions) : Pipeline :=
  p.append (.select (Selectable.toMap selections)) raw

/-- Keeps the rows for which a condition holds. -/
def filter (condition : Condition) (raw : RawOptions) : Pipeline :=
  p.append (.filter condition) raw

def offset (count : UInt32) (raw : RawOptions) : Pipeline := p.append (.offset (widen count)) raw

def limit (count : UInt32) (raw : RawOptions) : Pipeline := p.append (.limit (widen count)) raw

def distinct (groups : List Selectable) (raw : RawOptions) : Pipeline :=
  p.append (.distinct (Selectable.toMap groups)) raw

/-- Aggregates over the rows of each group, over all rows when there are no groups. Accumulators go
by their aliases; of two with one alias the later counts. -/
def aggregate (accumulators : List (String × Aggregate)) (groups : List Selectable)
    (raw : RawOptions) : Pipeline :=
  p.append (.aggregate (OrderedMap.ofList accumulators) (Selectable.toMap groups)) raw

def findNearest (request : NearestRequest) (raw : RawOptions) : Pipeline :=
  p.append (.findNearest request.search) raw

/-- Replaces each row by a map. -/
def replaceWith (map : Expression) (raw : RawOptions) : Pipeline := p.append (.replaceWith map) raw

/-- Keeps a sample of so many rows; any count will do. -/
def sampleDocuments (count : UInt32) : Pipeline := p.append (.sample (.documents (widen count))) []

def sample (request : SampleRequest) (raw : RawOptions) : Except PipelineError Pipeline := do
  let rate ← request.rate.mapError .invalidArgument
  return p.append (.sample rate) raw

/-- The rows of this pipeline and then those of another one on the same database. -/
def union (other : Pipeline) (raw : RawOptions) : Except PipelineError Pipeline := do
  p.database.require other.database
  return p.append (.union other) raw

/-- A row for each element of an array; the element goes by the name of the item. -/
def unnest (item : Selectable) (indexField : Option Field) (raw : RawOptions) : Pipeline :=
  p.append (.unnest item.expression item.name indexField) raw

def sort (keys : List SortKey) (raw : RawOptions) : Except PipelineError Pipeline :=
  if keys.isEmpty then .error (.invalidArgument .noSortKeys)
  else .ok (p.append (.sort keys) raw)

/-- Writes the row's documents, into a collection of their own if a target is given. -/
def mutate (kind : Mutation) (target : Option CollectionTarget) (raw : RawOptions) :
    Except PipelineError Pipeline := do
  let target ← target.mapM (·.resolve p.database)
  return p.append (.mutation kind target) raw

/-- A stage that the library does not know. -/
def custom (name : String) (parameters : List Parameter) (raw : RawOptions) : Pipeline :=
  p.append (.custom name parameters) raw

end Pipeline
end DocumentPipeline
