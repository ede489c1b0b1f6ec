import DocumentPipeline.Builder

/-!
Queries, which say what to read, and the pipelines that read it. The order in which a query is put
together does not matter, except among its filters and among its sort keys. A pipeline sorts by the
document name last, so that the order of its rows is total, and asks for every field that it sorts
by. The last rows of an order are the first ones of the reversed order, sorted back.
-/
namespace DocumentPipeline

inductive QuerySource where
  | collection (reference : CollectionReference)
  | group (database : DatabaseId) (id : String)

structure Query where
  source : QuerySource
  filters : List Filter
  order : List (Field × Direction)
  offset : Option UInt32
  limit : Option UInt32
  /-- Whether the rows to keep are those at the end of the order. -/
  limitToLast : Bool
  projection : Option (List Field)

namespace Query

/-- All rows of a source. -/
def ofSource (source : QuerySource) : Query := ⟨source, [], [], none, none, false, none⟩

def database (q : Query) : DatabaseId :=
  match q.source with
  | .collection c => c.database
  | .group db _ => db

/-! Putting a query together -/

variable (q : Query)

def addFilter (f : Filter) : Query := { q with filters := q.filters ++ [f] }

def orderBy (f : Field) (direction : Direction) : Query :=
  { q with order := q.order ++ [(f, direction)] }

def setOffset (count : UInt32) : Query := { q with offset := some count }

def setLimit (count : UInt32) : Query := { q with limit := some count, limitToLast := false }

/-- Keeps the last rows, in the order asked for; there has to be one. -/
def setLimitToLast (count : UInt32) : Query := { q with limit := some count, limitToLast := true }

def select (fields : List Field) : Query := { q with projection := some fields }

/-! The pipeline of a query -/

def sortKey (k : Field × Direction) : SortKey := ⟨.field k.1, k.2⟩

/-- The order asked for, made total by the document name in the direction of the last key. -/
def totalOrder : List SortKey :=
  let keys := q.order.map sortKey
  if q.order.any (·.1 == .documentName) then keys
  else
    let direction := (q.order.getLast?.map (·.2)).getD .ascending
    keys ++ [⟨.field .documentName, direction⟩]

/-- Holds for the rows that have every field of the order. -/
def orderGuard? : Option Condition :=
  match q.order.map fun k => (Expression.field k.1).isPresent with
  | [] => none
  | [c] => some c
  | cs => some (.all cs)

def sourcePipeline : Except PipelineError Pipeline :=
  match q.source with
  | .collection c => Pipeline.ofCollection c.database (.reference c) none []
  | .group db id => Pipeline.ofCollectionGroup db id none []

def addFilters (p : Pipeline) : Except PipelineError Pipeline :=
  q.filters.foldlM (fun p f => do return p.filter (← f.toCondition.mapError .ofFilter) []) p

def addGuard (p : Pipeline) : Pipeline :=
  match q.orderGuard? with
  | none => p
  | some c => p.filter c []

def addOffset (p : Pipeline) : Pipeline :=
  match q.offset with
  | none => p
  | some n => p.offset n []

def addLimit (p : Pipeline) : Pipeline :=
  match q.limit with
  | none => p
  | some n => p.limit n []

/-- Whether something depends on the order of the rows. -/
def needsSort : Bool := !q.order.isEmpty || q.offset.isSome || q.limit.isSome

/-- Sorting, offset and limit. Rows keep the order of the source when nothing asks for one. -/
def addWindow (p : Pipeline) : Except PipelineError Pipeline := do
  if q.limitToLast then
    let p ← p.sort (q.totalOrder.map SortKey.reversed) []
    (q.addLimit (q.addOffset p)).sort q.totalOrder []
  else
    let p ← if q.needsSort then p.sort q.totalOrder [] else pure p
    return q.addLimit (q.addOffset p)

def addProjection (p : Pipeline) : Pipeline :=
  match q.projection with
  | none => p
  | some fields => p.select (fields.map Selectable.field) []

/-- The pipeline that gives the rows of a query. -/
def toPipeline : Except PipelineError Pipeline := do
  let p ← q.addFilters (← q.sourcePipeline)
  if q.limitToLast ∧ q.order.isEmpty then throw (.invalidArgument .lastWithoutOrder)
  return q.addProjection (← q.addWindow (q.addGuard p))

end Query

/-- The pipeline of a query on a given database. -/
def Pipeline.ofQuery (db : DatabaseId) (q : Query) : Except PipelineError Pipeline := do
  db.require q.database
  q.toPipeline

end DocumentPipeline
