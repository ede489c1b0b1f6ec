import DocumentPipeline.Builder
import DocumentPipeline.Proofs.Contents
import DocumentPipeline.Proofs.NamedItems

/-!
# Projections

Some calls take a list of items for a projection: fields, which go by their own paths, and
expressions under aliases. An aggregation has such a list for its groups and another one for its
accumulators.

* `Selectable.named`: the items of a list with their names;
* `Encoding.HoldsItems`, `Encoding.HoldsAccumulators`: maps of the last item of each name;
* `StageBody.SentAlike`: stages that are checked and sent alike;
* `StageBody.SentAlike.toWire_iff`: pipelines that end in such stages;
* `Pipeline.projections_send_last`: what is sent for lists of items, and that it does not depend on
  the order of items with different names.
-/

namespace DocumentPipeline

/-- The items of a projection with their names. -/
def Selectable.named (items : List Selectable) : List (String × Expression) := items.map entry

open Selectable (named toMap)
open Wire (Value)

namespace Encoding
variable (skipUndefined : Bool)

/-- A map of the last item of each name; an absent value that is skipped leaves its name out. -/
abbrev HoldsItems (items : List Selectable) (fields : FieldMap Value) : Prop :=
  HoldsLast (skips skipUndefined) (encodeExpression skipUndefined) (named items) fields

/-- A map of the last accumulator of each alias. -/
abbrev HoldsAccumulators (accumulators : List (String × Aggregate)) (fields : FieldMap Value) :
    Prop :=
  HoldsLast (fun _ => false) (encodeAggregate skipUndefined) accumulators fields

variable {skipUndefined} {items : List Selectable} {accumulators : List (String × Aggregate)}

theorem encodeNamed_toMap_eq_ok {v : Value} :
    encodeNamed skipUndefined (toMap items) = .ok v ↔
      ∃ fields, HoldsItems skipUndefined items fields ∧ .map fields = v := by
  rw [encodeNamed_eq, map_eq_ok, Selectable.toMap_eq, ← named]
  simp only [encodeItems_ofList_eq_ok_iff]

theorem encodeNamed_toMap_eq_error :
    (∃ fault, encodeNamed skipUndefined (toMap items) = .error fault) ↔
      SomeLastFails (encodeExpression skipUndefined) (named items) := by
  simp only [encodeNamed_eq, map_eq_error, Selectable.toMap_eq]
  exact encodeItems_ofList_eq_error (sendable_of_skips skipUndefined)

theorem encodeAccumulators_ofList_eq_ok {v : Value} :
    encodeAccumulators skipUndefined (OrderedMap.ofList accumulators) = .ok v ↔
      ∃ fields, HoldsAccumulators skipUndefined accumulators fields ∧ .map fields = v := by
  rw [encodeAccumulators_eq, map_eq_ok]
  simp only [encodeItems_ofList_eq_ok_iff]

theorem encodeAccumulators_ofList_eq_error :
    (∃ fault, encodeAccumulators skipUndefined (OrderedMap.ofList accumulators) = .error fault) ↔
      SomeLastFails (encodeAggregate skipUndefined) accumulators := by
  simp only [encodeAccumulators_eq, map_eq_error]
  exact encodeItems_ofList_eq_error nofun

/-- A stage that takes one list of items sends one map. -/
theorem encodeProjection_eq_ok {body : StageBody}
    (encoded : encodeBody skipUndefined body =
      Except.mapError .ofEncoding do return [← encodeNamed skipUndefined (toMap items)])
    {arguments : List Value} :
    encodeBody skipUndefined body = .ok arguments ↔
      ∃ fields, HoldsItems skipUndefined items fields ∧ arguments = [.map fields] := by
  rw [encoded, mapError_eq_ok, bind_eq_ok]
  simp only [pure_eq_ok, encodeNamed_toMap_eq_ok]
  constructor
  · rintro ⟨v, ⟨fields, holds, rfl⟩, rfl⟩
    exact ⟨fields, holds, rfl⟩
  · rintro ⟨fields, holds, rfl⟩
    exact ⟨_, ⟨fields, holds, rfl⟩, rfl⟩

theorem encodeProjection_eq_error {body : StageBody}
    (encoded : encodeBody skipUndefined body =
      Except.mapError .ofEncoding do return [← encodeNamed skipUndefined (toMap items)]) :
    (∃ error, encodeBody skipUndefined body = .error error) ↔
      SomeLastFails (encodeExpression skipUndefined) (named items) := by
  rw [← encodeNamed_toMap_eq_error, encoded, fails_iff, mapError_succeeds, bind_return_succeeds,
    ← fails_iff]

/-- An aggregation sends a map of its accumulators and one of its groups. -/
theorem encodeAggregation_eq_ok {arguments : List Value} :
    encodeBody skipUndefined (.aggregate (OrderedMap.ofList accumulators) (toMap items)) =
        .ok arguments ↔
      ∃ sums groups, HoldsAccumulators skipUndefined accumulators sums ∧
        HoldsItems skipUndefined items groups ∧ arguments = [.map sums, .map groups] := by
  rw [encodeBody, mapError_eq_ok, bind_eq_ok]
  simp only [bind_eq_ok, pure_eq_ok, encodeAccumulators_ofList_eq_ok, encodeNamed_toMap_eq_ok]
  constructor
  · rintro ⟨_, ⟨sums, holdsSums, rfl⟩, _, ⟨groups, holdsGroups, rfl⟩, rfl⟩
    exact ⟨sums, groups, holdsSums, holdsGroups, rfl⟩
  · rintro ⟨sums, groups, holdsSums, holdsGroups, rfl⟩
    exact ⟨_, ⟨sums, holdsSums, rfl⟩, _, ⟨groups, holdsGroups, rfl⟩, rfl⟩

theorem encodeAggregation_eq_error :
    (∃ error, encodeBody skipUndefined
        (.aggregate (OrderedMap.ofList accumulators) (toMap items)) = .error error) ↔
      SomeLastFails (encodeAggregate skipUndefined) accumulators ∨
        SomeLastFails (encodeExpression skipUndefined) (named items) := by
  rw [← encodeAccumulators_ofList_eq_error, ← encodeNamed_toMap_eq_error, fails_iff, encodeBody,
    mapError_succeeds, bind_succeeds]
  simp only [bind_return_succeeds, exists_and_right, fails_iff, not_and_or]

end Encoding

open Validation Encoding

namespace StageBody

/-- Stages that know the same options, hold the same expressions and fields, and have the same
arguments on the wire, if any. -/
structure SentAlike (skipUndefined : Bool) (body body' : StageBody) : Prop where
  name_eq : body.name = body'.name
  known_eq : body.knownOptions = body'.knownOptions
  computed_eq : body.computedOptions = body'.computedOptions
  plainFields_eq : body.plainFields = body'.plainFields
  mem_expressions_iff (e : Expression) : e ∈ body.expressions ↔ e ∈ body'.expressions
  union_iff (other : Pipeline) : body = .union other ↔ body' = .union other
  arguments_iff (arguments : List Value) :
    encodeBody skipUndefined body = .ok arguments ↔ encodeBody skipUndefined body' = .ok arguments

namespace SentAlike
variable {skipUndefined : Bool} {body body' : StageBody} {raw : RawOptions}

theorem checkStage_iff (alike : SentAlike skipUndefined body body') :
    checkStage skipUndefined ⟨body, raw⟩ = .ok () ↔
      checkStage skipUndefined ⟨body', raw⟩ = .ok () := by
  simp only [checkStage_eq_ok, checkBody_eq_ok, alike.plainFields_eq, alike.mem_expressions_iff,
    alike.union_iff]

theorem encodeStage_iff (alike : SentAlike skipUndefined body body') {w : Wire.Stage} :
    encodeStage skipUndefined ⟨body, raw⟩ = .ok w ↔
      encodeStage skipUndefined ⟨body', raw⟩ = .ok w := by
  simp only [encodeStage, bind_eq_ok, optionScope, alike.name_eq, alike.known_eq,
    alike.computed_eq, alike.arguments_iff]

/-- **Pipelines that end in stages which are sent alike** have the same wire form, if any. -/
theorem toWire_iff (alike : SentAlike skipUndefined body body') (p : Pipeline)
    {wire : List Wire.Stage} :
    (p.append body raw).toWire skipUndefined = .ok wire ↔
      (p.append body' raw).toWire skipUndefined = .ok wire := by
  have checked : checkPipeline skipUndefined (p.append body raw) = .ok () ↔
      checkPipeline skipUndefined (p.append body' raw) = .ok () := by
    simp only [checkPipeline_eq_ok, Pipeline.stages_append, List.forall_mem_append,
      List.forall_mem_singleton, alike.checkStage_iff]
  have encoded : encodePipeline skipUndefined (p.append body raw) = .ok wire ↔
      encodePipeline skipUndefined (p.append body' raw) = .ok wire := by
    simp only [encodePipeline_eq_mapM, Pipeline.stages_append, List.mapM_append, List.mapM_cons,
      List.mapM_nil, bind_eq_ok, alike.encodeStage_iff]
  rw [Pipeline.toWire, Pipeline.toWire, then_eq_ok, then_eq_ok, checked, encoded]

end SentAlike

variable {skipUndefined : Bool} {items others : List Selectable}
  {accumulators accumulators' : List (String × Aggregate)}

theorem holdsItems_perm (perm : items.Perm others) (nodup : ((named items).map (·.1)).Nodup)
    {fields : FieldMap Value} :
    HoldsItems skipUndefined items fields ↔ HoldsItems skipUndefined others fields :=
  HoldsLast.perm_iff (perm.map _) nodup

/-- Items with different names are all in the map, in their order. -/
theorem toMap_of_nodup (nodup : ((named items).map (·.1)).Nodup) : toMap items = named items := by
  rw [Selectable.toMap_eq]
  exact OrderedMap.ofList_of_nodup nodup

theorem mem_expressions_toMap (perm : items.Perm others) (nodup : ((named items).map (·.1)).Nodup)
    (e : Expression) : e ∈ (toMap items).map (·.2) ↔ e ∈ (toMap others).map (·.2) := by
  have perm : (named items).Perm (named others) := perm.map _
  rw [toMap_of_nodup nodup, toMap_of_nodup ((perm.map _).nodup_iff.1 nodup)]
  exact (perm.map _).mem_iff

/-- The stages that take one list of items. -/
def projections : List (ExpressionMap → StageBody) := [.addFields, .select, .distinct]

theorem encodeBody_projection (skipUndefined : Bool) {stage : ExpressionMap → StageBody}
    (projection : stage ∈ projections) (entries : ExpressionMap) :
    encodeBody skipUndefined (stage entries) =
      Except.mapError .ofEncoding do return [← encodeNamed skipUndefined entries] := by
  simp only [projections, List.mem_cons, List.not_mem_nil, or_false] at projection
  obtain rfl | rfl | rfl := projection <;> rfl

/-- Items with different names are sent alike in any order. -/
theorem SentAlike.projection {stage : ExpressionMap → StageBody} (projection : stage ∈ projections)
    (perm : items.Perm others) (nodup : ((named items).map (·.1)).Nodup) :
    SentAlike skipUndefined (stage (toMap items)) (stage (toMap others)) := by
  have arguments_iff (arguments : List Value) :
      encodeBody skipUndefined (stage (toMap items)) = .ok arguments ↔
        encodeBody skipUndefined (stage (toMap others)) = .ok arguments := by
    rw [encodeProjection_eq_ok (encodeBody_projection _ projection _),
      encodeProjection_eq_ok (encodeBody_projection _ projection _)]
    simp only [holdsItems_perm perm nodup]
  have mem_expressions_iff := mem_expressions_toMap perm nodup
  simp only [projections, List.mem_cons, List.not_mem_nil, or_false] at projection
  obtain rfl | rfl | rfl := projection <;>
    exact ⟨rfl, rfl, rfl, rfl, mem_expressions_iff, fun _ => iff_of_false nofun nofun,
      arguments_iff⟩

/-- Accumulators with different aliases, and groups with different names, are sent alike in any
order. -/
theorem SentAlike.aggregate (perm : items.Perm others) (nodup : ((named items).map (·.1)).Nodup)
    (perm' : accumulators.Perm accumulators') (nodup' : (accumulators.map (·.1)).Nodup) :
    SentAlike skipUndefined (.aggregate (OrderedMap.ofList accumulators) (toMap items))
      (.aggregate (OrderedMap.ofList accumulators') (toMap others)) where
  name_eq := rfl
  known_eq := rfl
  computed_eq := rfl
  plainFields_eq := rfl
  mem_expressions_iff e := by
    simp only [expressions, List.mem_append]
    rw [mem_expressions_toMap perm nodup, OrderedMap.ofList_of_nodup nodup',
      OrderedMap.ofList_of_nodup ((perm'.map _).nodup_iff.1 nodup'),
      (perm'.flatMap_right _).mem_iff]
  union_iff _ := iff_of_false nofun nofun
  arguments_iff arguments := by
    simp only [encodeAggregation_eq_ok, holdsItems_perm perm nodup, HoldsAccumulators,
      HoldsLast.perm_iff perm' nodup']

end StageBody

namespace Pipeline

/-- The calls that take one list of items. -/
def projectionCalls : List (Pipeline → List Selectable → RawOptions → Pipeline) :=
  [addFields, select, distinct]

theorem projectionCalls_eq {call : Pipeline → List Selectable → RawOptions → Pipeline}
    (h : call ∈ projectionCalls) :
    ∃ stage ∈ StageBody.projections, ∀ p items raw,
      call p items raw = p.append (stage (toMap items)) raw := by
  simp only [projectionCalls, List.mem_cons, List.not_mem_nil, or_false] at h
  obtain rfl | rfl | rfl := h
  · exact ⟨.addFields, by simp [StageBody.projections], fun _ _ _ => rfl⟩
  · exact ⟨.select, by simp [StageBody.projections], fun _ _ _ => rfl⟩
  · exact ⟨.distinct, by simp [StageBody.projections], fun _ _ _ => rfl⟩

/-- **What is sent for a list of items** is a map of the last item of each name: an item that was
replaced is not sent, and cannot keep the others from being sent. The accumulators of an aggregation
are sent in the same way by their aliases. Items that all have different names are sent alike in any
order. -/
theorem projections_send_last (skipUndefined : Bool) (p : Pipeline) (raw : RawOptions)
    (accumulators : List (String × Aggregate)) (items : List Selectable) :
    (∀ call ∈ projectionCalls,
      (∀ arguments, encodeBody skipUndefined (call p items raw).last.body = .ok arguments ↔
        ∃ fields, HoldsItems skipUndefined items fields ∧ arguments = [.map fields]) ∧
      ((∃ error, encodeBody skipUndefined (call p items raw).last.body = .error error) ↔
        SomeLastFails (encodeExpression skipUndefined) (named items))) ∧
    ((∀ arguments,
      encodeBody skipUndefined (p.aggregate accumulators items raw).last.body = .ok arguments ↔
        ∃ sums groups, HoldsAccumulators skipUndefined accumulators sums ∧
          HoldsItems skipUndefined items groups ∧ arguments = [.map sums, .map groups]) ∧
      ((∃ error,
          encodeBody skipUndefined (p.aggregate accumulators items raw).last.body = .error error) ↔
        SomeLastFails (encodeAggregate skipUndefined) accumulators ∨
          SomeLastFails (encodeExpression skipUndefined) (named items))) ∧
    ∀ others, items.Perm others → ((named items).map (·.1)).Nodup →
      (∀ call ∈ projectionCalls, ∀ wire,
        (call p items raw).toWire skipUndefined = .ok wire ↔
          (call p others raw).toWire skipUndefined = .ok wire) ∧
      ∀ accumulators', accumulators.Perm accumulators' → (accumulators.map (·.1)).Nodup →
        ∀ wire, (p.aggregate accumulators items raw).toWire skipUndefined = .ok wire ↔
          (p.aggregate accumulators' others raw).toWire skipUndefined = .ok wire := by
  refine ⟨fun call hcall => ?_, ⟨fun arguments => ?_, ?_⟩,
    fun others perm nodup => ⟨fun call hcall wire => ?_, fun others' perm' nodup' wire => ?_⟩⟩
  · obtain ⟨stage, projection, call_eq⟩ := projectionCalls_eq hcall
    rw [call_eq, last_append]
    have encoded := StageBody.encodeBody_projection skipUndefined projection (toMap items)
    exact ⟨fun arguments => encodeProjection_eq_ok encoded, encodeProjection_eq_error encoded⟩
  · rw [aggregate, last_append]
    exact encodeAggregation_eq_ok
  · rw [aggregate, last_append]
    exact encodeAggregation_eq_error
  · obtain ⟨stage, projection, call_eq⟩ := projectionCalls_eq hcall
    rw [call_eq, call_eq]
    exact (StageBody.SentAlike.projection projection perm nodup).toWire_iff p
  · exact (StageBody.SentAlike.aggregate perm nodup perm' nodup').toWire_iff p

/-- An aggregation of all documents. -/
def countEditions (accumulators : List (String × Aggregate)) (groups : List Selectable) :
    Pipeline :=
  (Pipeline.ofDatabase (.ofProject "library") []).aggregate accumulators groups []

theorem countEditions_any_order :
    ∃ wire,
      (countEditions [("n", ⟨"count", []⟩), ("pages", ⟨"sum", [.field ⟨"pages"⟩]⟩)]
        [.field ⟨"title"⟩, .aliased "year" (.field ⟨"published"⟩)]).toWire true = .ok wire ∧
      (countEditions [("pages", ⟨"sum", [.field ⟨"pages"⟩]⟩), ("n", ⟨"count", []⟩)]
        [.aliased "year" (.field ⟨"published"⟩), .field ⟨"title"⟩]).toWire true = .ok wire :=
  ⟨_, rfl, (((projections_send_last true _ [] _ _).2.2 _ (.swap _ _ _) (by decide)).2 _
    (.swap _ _ _) (by decide) _).1 rfl⟩

end Pipeline
end DocumentPipeline
