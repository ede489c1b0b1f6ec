import DocumentPipeline.Proofs.LastEntries
import DocumentPipeline.Proofs.Nesting
import DocumentPipeline.Query

/-!
# The stages of a query

A query that has a pipeline determines its stages, and one that has none determines why:

* `Query.rowOrder`: the order that a query puts its rows in;
* `Query.slots`: what the stages of a query do, slot after slot;
* `Query.addFilters_eq_ok`, `Query.addWindow_eq`: the stages for the filters, and those for order,
  offset and limit;
* `Query.toPipeline_eq_ok`: a query has a pipeline when its source, its filters and its limit make
  sense, and these are its stages;
* `Query.Refusal`, `Query.toPipeline_eq_error`: what a query without one is refused for.
-/

namespace DocumentPipeline

namespace Pipeline

/-- A pipeline with more stages, none of which has raw options. -/
def appendAll (p : Pipeline) (bodies : List StageBody) : Pipeline :=
  bodies.foldl (fun p body => p.append body []) p

theorem append_eq_appendAll (p : Pipeline) (body : StageBody) :
    p.append body [] = p.appendAll [body] := rfl

theorem appendAll_nil (p : Pipeline) : p.appendAll [] = p := rfl

theorem appendAll_appendAll (p : Pipeline) (bodies more : List StageBody) :
    (p.appendAll bodies).appendAll more = p.appendAll (bodies ++ more) :=
  List.foldl_append.symm

theorem stages_appendAll (p : Pipeline) (bodies : List StageBody) :
    (p.appendAll bodies).stages = p.stages ++ bodies.map (⟨·, []⟩) := by
  induction bodies generalizing p with
  | nil => simp [appendAll]
  | cons body rest ih =>
    rw [appendAll, List.foldl_cons, ← appendAll, ih, stages_append, List.append_assoc]
    rfl

end Pipeline

/-- The keys of an order, each field in its direction. -/
def forwardKeys (order : List (Field × Direction)) : List SortKey :=
  order.map fun key => ⟨.field key.1, key.2⟩

/-- The keys of an order from its end, each field in the other direction. -/
def backwardKeys (order : List (Field × Direction)) : List SortKey :=
  order.map fun
    | (f, .ascending) => ⟨.field f, .descending⟩
    | (f, .descending) => ⟨.field f, .ascending⟩

namespace Query
variable (q : Query)

/-- The order that a query asks for, with the name of the document last to make it total. It is not
added if the query names it somewhere itself. -/
def rowOrder : List (Field × Direction) :=
  if ⟨"__name__"⟩ ∈ q.order.map (·.1) then q.order
  else
    match q.order.getLast? with
    | none => [(⟨"__name__"⟩, .ascending)]
    | some last => q.order ++ [(⟨"__name__"⟩, last.2)]

/-! ## Slots -/

/-- What the source stage does. -/
def sourceBody : StageBody :=
  match q.source with
  | .collection c => .collection c none
  | .group _ id => .collectionGroup id none

/-- Keeps the rows with every field of the order, if there is an order. -/
def guardSlot : List StageBody :=
  match q.order.map fun key => Expression.call "exists" [.field key.1] with
  | [] => []
  | [guard] => [.filter ⟨guard⟩]
  | guards => [.filter ⟨.call "and" guards⟩]

def offsetSlot : List StageBody := (q.offset.map fun n => .offset (Int64.ofNat n.toNat)).toList

def limitSlot : List StageBody := (q.limit.map fun n => .limit (Int64.ofNat n.toNat)).toList

/-- The last rows of an order are the first rows from its end, sorted back. Any other rows are
sorted if an order, an offset or a limit is asked for. -/
def windowSlots : List StageBody :=
  if q.limitToLast then
    [.sort (backwardKeys q.rowOrder)] ++ q.offsetSlot ++ q.limitSlot ++
      [.sort (forwardKeys q.rowOrder)]
  else
    (if q.order ≠ [] ∨ q.offset ≠ none ∨ q.limit ≠ none then [.sort (forwardKeys q.rowOrder)]
      else []) ++ q.offsetSlot ++ q.limitSlot

/-- The fields to select, each once under its own path. -/
def projectionSlot : List StageBody :=
  (q.projection.map fun fields =>
    .select ((fields.map (·.path)).eraseDups.map fun path => (path, .field ⟨path⟩))).toList

/-- What the stages after the source do, given the conditions of the filters. -/
def laterSlots (conditions : List Condition) : List StageBody :=
  conditions.map .filter ++ q.guardSlot ++ q.windowSlots ++ q.projectionSlot

/-- What the stages of a query do, slot after slot, given the conditions of its filters. -/
def slots (conditions : List Condition) : List StageBody :=
  q.sourceBody :: q.laterSlots conditions

/-- A source that can be read: the id of a collection group is one segment of a path. -/
def HasSource : Prop :=
  match q.source with
  | .collection _ => True
  | .group _ id => id ≠ "" ∧ '/' ∉ id.toList

/-! ## Orders -/

theorem rowOrder_ne_nil : q.rowOrder ≠ [] := by
  rw [rowOrder]
  split
  · next named => exact fun none => by simp [none] at named
  · split <;> simp

theorem totalOrder_eq : q.totalOrder = forwardKeys q.rowOrder := by
  have named : q.order.any (·.1 == .documentName) = true ↔ ⟨"__name__"⟩ ∈ q.order.map (·.1) := by
    simp [List.any_eq_true, Field.documentName]
  rw [totalOrder, rowOrder, forwardKeys]
  by_cases h : ⟨"__name__"⟩ ∈ q.order.map (·.1)
  · rw [if_pos (named.2 h), if_pos h]
    rfl
  · rw [if_neg (mt named.1 h), if_neg h]
    cases last : q.order.getLast? with
    | none =>
      rw [List.getLast?_eq_none_iff] at last
      rw [last]
      rfl
    | some k =>
      rw [List.map_append]
      rfl

theorem totalOrder_reversed : q.totalOrder.map SortKey.reversed = backwardKeys q.rowOrder := by
  rw [totalOrder_eq, forwardKeys, List.map_map, backwardKeys]
  refine List.map_congr_left fun key _ => ?_
  obtain ⟨f, direction⟩ := key
  cases direction <;> rfl

theorem orderGuard?_eq_guardSlot : (q.orderGuard?.map .filter).toList = q.guardSlot := by
  rw [orderGuard?, guardSlot]
  match q.order with
  | [] => rfl
  | [_] => rfl
  | _ :: _ :: _ => simp [Condition.all, Condition.call, Expression.isPresent]

theorem toMap_fields (fields : List Field) :
    Selectable.toMap (fields.map .field) =
      (fields.map (·.path)).eraseDups.map fun path => (path, .field ⟨path⟩) := by
  rw [← OrderedMap.ofList_of_keys, Selectable.toMap, List.map_map, List.map_map]
  rfl

/-! ## What each part adds -/

theorem sourcePipeline_eq_ok {p : Pipeline} :
    q.sourcePipeline = .ok p ↔ q.HasSource ∧ p = .start q.database q.sourceBody [] := by
  obtain ⟨source⟩ := q
  cases source with
  | collection c =>
    simp [sourcePipeline, Pipeline.ofCollection, CollectionTarget.resolve, DatabaseId.require,
      HasSource, sourceBody, database, bind, Except.bind, pure, Except.pure, eq_comm]
  | group db id =>
    by_cases refused : id = "" ∨ '/' ∈ id.toList
    · have unsound : ¬(id ≠ "" ∧ '/' ∉ id.toList) := by tauto
      simp [sourcePipeline, Pipeline.ofCollectionGroup, if_pos refused, HasSource, unsound]
    · have sound : id ≠ "" ∧ '/' ∉ id.toList := by tauto
      simp [sourcePipeline, Pipeline.ofCollectionGroup, HasSource, sound, sourceBody, database,
        eq_comm]

theorem sourcePipeline_eq_error {e : PipelineError} :
    q.sourcePipeline = .error e ↔
      ∃ db id, q.source = .group db id ∧ (id = "" ∨ '/' ∈ id.toList) ∧
        e = .invalidArgument (.collectionId id) := by
  obtain ⟨source⟩ := q
  cases source with
  | collection c =>
    simp [sourcePipeline, Pipeline.ofCollection, CollectionTarget.resolve, DatabaseId.require, bind,
      Except.bind, pure, Except.pure]
  | group db id =>
    by_cases refused : id = "" ∨ '/' ∈ id.toList
    · simp [sourcePipeline, Pipeline.ofCollectionGroup, refused, eq_comm]
    · simp [sourcePipeline, Pipeline.ofCollectionGroup, refused]

/-- The stages for the filters, one for each, unless one of the filters stands for no condition. -/
theorem addFilters_eq (p : Pipeline) :
    q.addFilters p =
      (fun conditions => p.appendAll (conditions.map .filter)) <$>
        (q.filters.mapM Filter.toCondition).mapError .ofFilter := by
  rw [addFilters]
  induction q.filters generalizing p with
  | nil => simp [Except.mapError, pure, Except.pure, Pipeline.appendAll_nil]
  | cons f rest ih =>
    rw [List.foldlM_cons, List.mapM_cons]
    cases f.toCondition with
    | error fault => rfl
    | ok c =>
      rw [mapError_ok, ok_bind, ok_bind, pure_bind, ih]
      cases rest.mapM Filter.toCondition with
      | error fault => rfl
      | ok conditions =>
        change _ = Except.ok (p.appendAll ((c :: conditions).map .filter))
        rw [mapError_ok, List.map_cons, ← List.singleton_append, ← Pipeline.appendAll_appendAll]
        rfl

theorem addFilters_eq_ok {p p' : Pipeline} :
    q.addFilters p = .ok p' ↔
      ∃ conditions, q.filters.mapM Filter.toCondition = .ok conditions ∧
        p' = p.appendAll (conditions.map .filter) := by
  simp only [addFilters_eq, map_eq_ok, mapError_eq_ok, @eq_comm _ p']

theorem addFilters_eq_error {p : Pipeline} {e : PipelineError} :
    q.addFilters p = .error e ↔
      ∃ before f after fault, q.filters = before ++ f :: after ∧
        (∀ g ∈ before, ∃ c, g.toCondition = .ok c) ∧ f.toCondition = .error fault ∧
        e = .invalidArgument (.filter fault) := by
  rw [addFilters_eq, map_eq_error, mapError_eq_error]
  simp only [mapM_eq_error]
  constructor
  · rintro ⟨fault, ⟨before, f, after, parts, earlier, fails⟩, rfl⟩
    exact ⟨before, f, after, fault, parts, earlier, fails, rfl⟩
  · rintro ⟨before, f, after, fault, parts, earlier, fails, rfl⟩
    exact ⟨fault, ⟨before, f, after, parts, earlier, fails⟩, rfl⟩

theorem sort_eq (p : Pipeline) {keys : List SortKey} (given : keys ≠ []) :
    p.sort keys [] = .ok (p.appendAll [.sort keys]) := by
  rw [Pipeline.sort, if_neg (by simpa using given), Pipeline.append_eq_appendAll]

theorem addGuard_eq (p : Pipeline) : q.addGuard p = p.appendAll q.guardSlot := by
  rw [addGuard, ← orderGuard?_eq_guardSlot]
  cases q.orderGuard? <;> rfl

theorem addOffset_eq (p : Pipeline) : q.addOffset p = p.appendAll q.offsetSlot := by
  rw [addOffset, offsetSlot]
  cases q.offset <;> rfl

theorem addLimit_eq (p : Pipeline) : q.addLimit p = p.appendAll q.limitSlot := by
  rw [addLimit, limitSlot]
  cases q.limit <;> rfl

theorem needsSort_iff : q.needsSort = true ↔ q.order ≠ [] ∨ q.offset ≠ none ∨ q.limit ≠ none := by
  simp [needsSort, Option.isSome_iff_ne_none, or_assoc]

/-- Sorting, offset and limit never fail: there is always a key to sort by. -/
theorem addWindow_eq (p : Pipeline) : q.addWindow p = .ok (p.appendAll q.windowSlots) := by
  have ordered : forwardKeys q.rowOrder ≠ [] := by simpa [forwardKeys] using q.rowOrder_ne_nil
  have reversed : backwardKeys q.rowOrder ≠ [] := by simpa [backwardKeys] using q.rowOrder_ne_nil
  rw [addWindow, windowSlots, totalOrder_reversed, totalOrder_eq]
  cases q.limitToLast with
  | true =>
    simp only [if_true, sort_eq _ reversed, sort_eq _ ordered, ok_bind, addLimit_eq, addOffset_eq,
      Pipeline.appendAll_appendAll, List.append_assoc]
  | false =>
    by_cases sorted : q.needsSort = true
    · simp only [Bool.false_eq_true, if_false, if_pos sorted, if_pos (q.needsSort_iff.1 sorted),
        sort_eq _ ordered, ok_bind, addLimit_eq, addOffset_eq, Pipeline.appendAll_appendAll]
      rfl
    · simp only [Bool.false_eq_true, if_false, if_neg sorted, if_neg (mt q.needsSort_iff.2 sorted),
        pure_bind, addLimit_eq, addOffset_eq, Pipeline.appendAll_appendAll, List.nil_append]
      rfl

theorem addProjection_eq (p : Pipeline) : q.addProjection p = p.appendAll q.projectionSlot := by
  rw [addProjection, projectionSlot]
  cases q.projection with
  | none => rfl
  | some fields =>
    rw [Option.map_some, ← toMap_fields]
    rfl

/-- **The pipeline of a query.** There is one when the source can be read, each filter stands for a
condition, and the last rows are asked for in some order only. -/
theorem toPipeline_eq_ok {p : Pipeline} :
    q.toPipeline = .ok p ↔
      q.HasSource ∧ (q.limitToLast = true → q.order ≠ []) ∧
        ∃ conditions, q.filters.mapM Filter.toCondition = .ok conditions ∧
          p = (Pipeline.start q.database q.sourceBody []).appendAll (q.laterSlots conditions) := by
  constructor
  · intro h
    obtain ⟨first, hfirst, h⟩ := bind_eq_ok.1 h
    obtain ⟨source, rfl⟩ := q.sourcePipeline_eq_ok.1 hfirst
    obtain ⟨filtered, hfiltered, h⟩ := bind_eq_ok.1 h
    obtain ⟨conditions, filters, rfl⟩ := q.addFilters_eq_ok.1 hfiltered
    by_cases refused : q.limitToLast ∧ q.order.isEmpty
    · rw [if_pos refused] at h
      cases h
    · rw [if_neg refused] at h
      simp only [addGuard_eq, addWindow_eq, ok_bind, pure_eq_ok, addProjection_eq,
        Pipeline.appendAll_appendAll] at h
      exact ⟨source, by simpa using refused, conditions, filters, h.symm⟩
  · rintro ⟨source, ordered, conditions, filters, rfl⟩
    have accepted : ¬(q.limitToLast ∧ q.order.isEmpty) := by simpa using ordered
    refine bind_eq_ok.2 ⟨_, q.sourcePipeline_eq_ok.2 ⟨source, rfl⟩, ?_⟩
    refine bind_eq_ok.2 ⟨_, q.addFilters_eq_ok.2 ⟨conditions, filters, rfl⟩, ?_⟩
    rw [if_neg accepted]
    simp only [addGuard_eq, addWindow_eq, ok_bind, pure_eq_ok, addProjection_eq,
      Pipeline.appendAll_appendAll]
    rfl

/-- What a query is refused for: the first thing wrong among its source, its filters in order, and
its limit. -/
inductive Refusal : PipelineError → Prop where
  | group {db : DatabaseId} {id : String} (source : q.source = .group db id)
    (unreadable : id = "" ∨ '/' ∈ id.toList) : Refusal (.invalidArgument (.collectionId id))
  | filter {before after : List Filter} {f : Filter} {fault : FilterFault} (source : q.HasSource)
    (parts : q.filters = before ++ f :: after)
    (earlier : ∀ g ∈ before, ∃ c, g.toCondition = .ok c) (fails : f.toCondition = .error fault) :
    Refusal (.invalidArgument (.filter fault))
  | unordered (source : q.HasSource) (filters : ∀ f ∈ q.filters, ∃ c, f.toCondition = .ok c)
    (last : q.limitToLast = true) (unordered : q.order = []) :
    Refusal (.invalidArgument .lastWithoutOrder)

/-- **A query without a pipeline** is refused for the first thing wrong with it. -/
theorem toPipeline_eq_error {e : PipelineError} : q.toPipeline = .error e ↔ q.Refusal e := by
  constructor
  · intro h
    obtain noSource | ⟨first, hfirst, h⟩ := bind_eq_error.1 h
    · obtain ⟨db, id, source, unreadable, rfl⟩ := q.sourcePipeline_eq_error.1 noSource
      exact .group source unreadable
    obtain ⟨source, -⟩ := q.sourcePipeline_eq_ok.1 hfirst
    obtain noFilter | ⟨filtered, hfiltered, h⟩ := bind_eq_error.1 h
    · obtain ⟨before, f, after, fault, parts, earlier, fails, rfl⟩ :=
        q.addFilters_eq_error.1 noFilter
      exact .filter source parts earlier fails
    obtain ⟨conditions, filters, -⟩ := q.addFilters_eq_ok.1 hfiltered
    by_cases refused : q.limitToLast ∧ q.order.isEmpty
    · rw [if_pos refused] at h
      cases h
      exact .unordered source (mapM_succeeds.1 ⟨conditions, filters⟩) refused.1
        (List.isEmpty_iff.1 refused.2)
    · rw [if_neg refused] at h
      simp only [addWindow_eq, ok_bind] at h
      cases h
  · rintro (⟨source, unreadable⟩ | ⟨source, parts, earlier, fails⟩ |
      ⟨source, filters, last, unordered⟩)
    · exact bind_eq_error.2 (.inl (q.sourcePipeline_eq_error.2 ⟨_, _, source, unreadable, rfl⟩))
    · exact bind_eq_error.2 (.inr ⟨_, q.sourcePipeline_eq_ok.2 ⟨source, rfl⟩, bind_eq_error.2
        (.inl (q.addFilters_eq_error.2 ⟨_, _, _, _, parts, earlier, fails, rfl⟩))⟩)
    · obtain ⟨conditions, filters⟩ := mapM_succeeds.2 filters
      have refused : q.limitToLast ∧ q.order.isEmpty := ⟨last, List.isEmpty_iff.2 unordered⟩
      refine bind_eq_error.2 (.inr ⟨_, q.sourcePipeline_eq_ok.2 ⟨source, rfl⟩, ?_⟩)
      refine bind_eq_error.2 (.inr ⟨_, q.addFilters_eq_ok.2 ⟨conditions, filters, rfl⟩, ?_⟩)
      rw [if_pos refused]
      rfl

end Query
end DocumentPipeline
