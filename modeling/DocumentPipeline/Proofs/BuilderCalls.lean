import DocumentPipeline.Proofs.Paths
import DocumentPipeline.Proofs.QueryStages
import DocumentPipeline.Proofs.ReferenceLiterals

/-!
# Calls that build pipelines

The calls that a caller can make, as data, and which of them fail:

* `SourceCall`, `StageCall`: calls that begin a pipeline, and calls that add a stage to one;
* `SourceCall.Obtained`, `StageCall.Obtained`: calls with references that a caller can get hold of;
* `Reachable`: the pipelines that calls lead to;
* `SourceCall.Sound`, `Query.Sound`, `StageCall.Sound`: what a call has to be given;
* `SourceCall.run_succeeds`, `Query.toPipeline_succeeds`, `StageCall.run_succeeds`: a call succeeds
  when that is so, and in no other case.
-/

namespace DocumentPipeline

theorem DatabaseId.require_eq_ok {expected actual : DatabaseId} :
    expected.require actual = .ok () ↔ actual = expected := by
  by_cases same : expected = actual
  · simp [require, same]
  · simp [require, same, Ne.symm same]

/-! ## Targets -/

def CollectionTarget.Obtained : CollectionTarget → Prop
  | .path _ => True
  | .reference c => c.Obtained

def DocumentTarget.Obtained : DocumentTarget → Prop
  | .path _ => True
  | .reference d => d.Obtained

/-- The path of a collection, or a reference into the database. -/
def CollectionTarget.Sound (db : DatabaseId) : CollectionTarget → Prop
  | .path text => Path.Names 1 text
  | .reference c => c.database = db

/-- The path of a document, or a reference into the database. -/
def DocumentTarget.Sound (db : DatabaseId) : DocumentTarget → Prop
  | .path text => Path.Names 0 text
  | .reference d => d.database = db

theorem CollectionTarget.resolve_succeeds {db : DatabaseId} {target : CollectionTarget} :
    (∃ c, target.resolve db = .ok c) ↔ target.Sound db := by
  cases target with
  | path text => simp [resolve, mapError_eq_ok, CollectionReference.ofPath_eq_ok, Sound]
  | reference c =>
    simp only [resolve, then_eq_ok, DatabaseId.require_eq_ok, pure_eq_ok, Sound]
    simp

theorem DocumentTarget.resolve_succeeds {db : DatabaseId} {target : DocumentTarget} :
    (∃ d, target.resolve db = .ok d) ↔ target.Sound db := by
  cases target with
  | path text => simp [resolve, mapError_eq_ok, DocumentReference.ofPath_eq_ok, Sound]
  | reference d =>
    simp only [resolve, then_eq_ok, DatabaseId.require_eq_ok, pure_eq_ok, Sound]
    simp

/-- What a target means lies in the database, at the path of a collection. -/
theorem CollectionTarget.resolve_proper {db : DatabaseId} {target : CollectionTarget}
    {c : CollectionReference} (obtained : target.Obtained) (h : target.resolve db = .ok c) :
    c.database = db ∧ Path.Proper 1 c.segments := by
  cases target with
  | path text =>
    obtain ⟨names, rfl⟩ := CollectionReference.ofPath_eq_ok.1 (mapError_eq_ok.1 h)
    exact ⟨rfl, names.proper⟩
  | reference c =>
    obtain ⟨same, h⟩ := then_eq_ok.1 h
    cases h
    exact ⟨DatabaseId.require_eq_ok.1 same, obtained.proper⟩

/-- What a target means lies in the database, at the path of a document. -/
theorem DocumentTarget.resolve_proper {db : DatabaseId} {target : DocumentTarget}
    {d : DocumentReference} (obtained : target.Obtained) (h : target.resolve db = .ok d) :
    d.database = db ∧ Path.Proper 0 d.segments := by
  cases target with
  | path text =>
    obtain ⟨names, rfl⟩ := DocumentReference.ofPath_eq_ok.1 (mapError_eq_ok.1 h)
    exact ⟨rfl, names.proper⟩
  | reference d =>
    obtain ⟨same, h⟩ := then_eq_ok.1 h
    cases h
    exact ⟨DatabaseId.require_eq_ok.1 same, obtained.proper⟩

/-! ## Calls -/

/-- A call that begins a pipeline on a database. -/
inductive SourceCall where
  | collection (target : CollectionTarget) (forceIndex : Option String) (raw : RawOptions)
  | collectionGroup (id : String) (forceIndex : Option String) (raw : RawOptions)
  | database (raw : RawOptions)
  | documents (targets : List DocumentTarget) (raw : RawOptions)
  | query (q : Query)

/-- A call that adds a stage to a pipeline. -/
inductive StageCall where
  | addFields (fields : List Selectable) (raw : RawOptions)
  | removeFields (fields : List Field) (raw : RawOptions)
  | select (selections : List Selectable) (raw : RawOptions)
  | filter (condition : Condition) (raw : RawOptions)
  | offset (count : UInt32) (raw : RawOptions)
  | limit (count : UInt32) (raw : RawOptions)
  | distinct (groups : List Selectable) (raw : RawOptions)
  | aggregate (accumulators : List (String × Aggregate)) (groups : List Selectable)
    (raw : RawOptions)
  | findNearest (request : NearestRequest) (raw : RawOptions)
  | replaceWith (map : Expression) (raw : RawOptions)
  | sampleDocuments (count : UInt32)
  | sample (request : SampleRequest) (raw : RawOptions)
  | union (other : Pipeline) (raw : RawOptions)
  | unnest (item : Selectable) (indexField : Option Field) (raw : RawOptions)
  | sort (keys : List SortKey) (raw : RawOptions)
  | mutate (kind : Mutation) (target : Option CollectionTarget) (raw : RawOptions)
  | custom (name : String) (parameters : List Parameter) (raw : RawOptions)

def SourceCall.run (db : DatabaseId) : SourceCall → Except PipelineError Pipeline
  | .collection target forceIndex raw => Pipeline.ofCollection db target forceIndex raw
  | .collectionGroup id forceIndex raw => Pipeline.ofCollectionGroup db id forceIndex raw
  | .database raw => .ok (.ofDatabase db raw)
  | .documents targets raw => Pipeline.ofDocuments db targets raw
  | .query q => Pipeline.ofQuery db q

def StageCall.run (p : Pipeline) : StageCall → Except PipelineError Pipeline
  | .addFields fields raw => .ok (p.addFields fields raw)
  | .removeFields fields raw => .ok (p.removeFields fields raw)
  | .select selections raw => .ok (p.select selections raw)
  | .filter condition raw => .ok (p.filter condition raw)
  | .offset count raw => .ok (p.offset count raw)
  | .limit count raw => .ok (p.limit count raw)
  | .distinct groups raw => .ok (p.distinct groups raw)
  | .aggregate accumulators groups raw => .ok (p.aggregate accumulators groups raw)
  | .findNearest request raw => .ok (p.findNearest request raw)
  | .replaceWith map raw => .ok (p.replaceWith map raw)
  | .sampleDocuments count => .ok (p.sampleDocuments count)
  | .sample request raw => p.sample request raw
  | .union other raw => p.union other raw
  | .unnest item indexField raw => .ok (p.unnest item indexField raw)
  | .sort keys raw => p.sort keys raw
  | .mutate kind target raw => p.mutate kind target raw
  | .custom name parameters raw => .ok (p.custom name parameters raw)

/-! ## References of calls -/

def QuerySource.Obtained : QuerySource → Prop
  | .collection c => c.Obtained
  | .group _ _ => True

/-- A query whose references a caller can get hold of, those of its literals included. -/
structure Query.Obtained (q : Query) : Prop where
  source : q.source.Obtained
  literals : ∀ d ∈ q.references, d.Obtained

/-- Expressions whose literals refer to documents that a caller can get hold of. -/
def LiteralsObtained (expressions : List Expression) : Prop :=
  ∀ d ∈ expressions.flatMap (·.references), d.Obtained

/-- A call whose references a caller can get hold of, those of its literals included. -/
def SourceCall.Obtained : SourceCall → Prop
  | .collection target _ raw => target.Obtained ∧ LiteralsObtained (raw.map (·.2))
  | .collectionGroup _ _ raw | .database raw => LiteralsObtained (raw.map (·.2))
  | .documents targets raw =>
    (∀ target ∈ targets, target.Obtained) ∧ LiteralsObtained (raw.map (·.2))
  | .query q => q.Obtained

namespace StageCall

/-- The expressions that a call is given, those of its raw options last. -/
def expressions : StageCall → List Expression
  | .addFields items raw | .select items raw | .distinct items raw =>
    items.map (·.entry.2) ++ raw.map (·.2)
  | .filter c raw => c.expression :: raw.map (·.2)
  | .aggregate accumulators groups raw =>
    accumulators.flatMap (·.2.arguments) ++ groups.map (·.entry.2) ++ raw.map (·.2)
  | .findNearest request raw => request.vector :: raw.map (·.2)
  | .replaceWith e raw => e :: raw.map (·.2)
  | .unnest item _ raw => item.entry.2 :: raw.map (·.2)
  | .sort keys raw => keys.map (·.expression) ++ raw.map (·.2)
  | .custom _ parameters raw => parameters.flatMap (·.expressions) ++ raw.map (·.2)
  | .removeFields _ raw | .offset _ raw | .limit _ raw | .sample _ raw | .union _ raw
  | .mutate _ _ raw => raw.map (·.2)
  | .sampleDocuments _ => []

/-- The collection that a call writes to, if it is given one. -/
def target? : StageCall → Option CollectionTarget
  | .mutate _ target _ => target
  | _ => none

structure Obtained (call : StageCall) : Prop where
  target : ∀ t ∈ call.target?, t.Obtained
  literals : LiteralsObtained call.expressions

end StageCall

/-- A pipeline that calls lead to, and so do the pipelines it is united with on the way. -/
inductive Reachable : Pipeline → Prop where
  | source {db : DatabaseId} {call : SourceCall} {p : Pipeline} :
    call.Obtained → call.run db = .ok p → Reachable p
  | query {q : Query} {p : Pipeline} : q.Obtained → q.toPipeline = .ok p → Reachable p
  | stage {p p' : Pipeline} {call : StageCall} :
    Reachable p → call.Obtained → (∀ other raw, call = .union other raw → Reachable other) →
      call.run p = .ok p' → Reachable p'

/-! ## Calls that fail -/

/-- A percentage to sample rows at: finite, and not below zero. -/
def IsPercentage (x : Double) : Prop := x.isFinite ∧ (x.isNegative = false ∨ x.isZero)

theorem isFiniteNonnegative_iff {x : Double} : x.isFiniteNonnegative = true ↔ IsPercentage x := by
  simp [Double.isFiniteNonnegative, IsPercentage]

/-- A rate that is given once, as a count or as a percentage. -/
def SampleRequest.Sound (r : SampleRequest) : Prop :=
  (r.documents.isSome ∧ r.percentage = none) ∨
    r.documents = none ∧ ∃ x, r.percentage = some x ∧ IsPercentage x

/-- A query with a source, without faults in its filters, and with an order if it asks for the last
rows. -/
def Query.Sound (q : Query) : Prop :=
  q.HasSource ∧ (∀ f ∈ q.filters, ∀ g ∈ f.within, ¬g.Faulty) ∧ (q.limitToLast = true → q.order ≠ [])

def SourceCall.Sound (db : DatabaseId) : SourceCall → Prop
  | .collection target _ _ => target.Sound db
  | .collectionGroup id _ _ => Path.IsSegment id
  | .database _ => True
  | .documents targets _ => targets ≠ [] ∧ ∀ target ∈ targets, target.Sound db
  | .query q => q.database = db ∧ q.Sound

def StageCall.Sound (p : Pipeline) : StageCall → Prop
  | .sample request _ => request.Sound
  | .union other _ => other.database = p.database
  | .sort keys _ => keys ≠ []
  | .mutate _ target _ => ∀ t ∈ target, t.Sound p.database
  | _ => True

theorem SampleRequest.rate_succeeds {r : SampleRequest} :
    (∃ rate, r.rate = .ok rate) ↔ r.Sound := by
  obtain ⟨documents, percentage⟩ := r
  cases documents with
  | some n => cases percentage <;> simp [rate, Sound]
  | none =>
    cases percentage with
    | none => simp [rate, Sound]
    | some x =>
      by_cases valid : x.isFiniteNonnegative <;>
        simp [rate, Sound, ← isFiniteNonnegative_iff, valid]

theorem Query.toPipeline_succeeds {q : Query} : (∃ p, q.toPipeline = .ok p) ↔ q.Sound := by
  simp only [toPipeline_eq_ok, Sound, ← Filter.toCondition_succeeds, ← mapM_succeeds]
  constructor
  · rintro ⟨p, source, ordered, conditions, filters, -⟩
    exact ⟨source, ⟨conditions, filters⟩, ordered⟩
  · rintro ⟨source, ⟨conditions, filters⟩, ordered⟩
    exact ⟨_, source, ordered, conditions, filters, rfl⟩

theorem SourceCall.run_succeeds {db : DatabaseId} {call : SourceCall} :
    (∃ p, call.run db = .ok p) ↔ call.Sound db := by
  cases call with
  | collection target forceIndex raw =>
    rw [run, Pipeline.ofCollection, bind_return_succeeds, CollectionTarget.resolve_succeeds, Sound]
  | collectionGroup id forceIndex raw =>
    have whole : Path.IsSegment id ↔ ¬(id = "" ∨ '/' ∈ id.toList) := not_or.symm
    rw [run, Pipeline.ofCollectionGroup, Sound, whole]
    split <;> simp [*]
  | database raw => simp [run, Sound]
  | documents targets raw =>
    rw [run, Pipeline.ofDocuments, Sound]
    by_cases given : targets = []
    · subst given
      constructor
      · rintro ⟨p, h⟩
        cases h
      · rintro ⟨given, -⟩
        exact absurd rfl given
    · rw [if_neg (by simpa using given), bind_return_succeeds, mapM_succeeds]
      simp [given, DocumentTarget.resolve_succeeds]
  | query q =>
    simp only [run, Pipeline.ofQuery, then_eq_ok, DatabaseId.require_eq_ok, exists_and_left,
      Query.toPipeline_succeeds, Sound]

theorem StageCall.run_succeeds {p : Pipeline} {call : StageCall} :
    (∃ p', call.run p = .ok p') ↔ call.Sound p := by
  cases call with
  | sample request raw =>
    rw [run, Pipeline.sample, bind_return_succeeds, mapError_succeeds,
      SampleRequest.rate_succeeds, Sound]
  | union other raw =>
    simp only [run, Pipeline.union, then_eq_ok, DatabaseId.require_eq_ok, pure_eq_ok, Sound]
    simp
  | sort keys raw => cases keys <;> simp [run, Pipeline.sort, Sound]
  | mutate kind target raw =>
    rw [run, Pipeline.mutate, bind_return_succeeds, Sound]
    cases target with
    | none => simp [pure, Except.pure]
    | some t =>
      simp only [Option.mapM_some, map_eq_ok, Option.mem_some_iff, forall_eq',
        ← CollectionTarget.resolve_succeeds]
      simp
  | _ => simp [run, Sound]

end DocumentPipeline
