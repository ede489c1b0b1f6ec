import DocumentPipeline.Proofs.Expressions

/-!
# What a stage holds

The fields and expressions of a stage, each listed once, and the check and the encoding of a stage
read over these lists:

* `Selectable.entry`: the name of an item of a projection, and what goes by it;
* `StageBody.expressions`, `StageBody.plainFields`: what a stage holds besides another pipeline;
* `checkBody_eq_ok`: a stage passes its check when all of these do;
* `encodeBody_succeeds`: a stage has arguments when all of its expressions have a wire form;
* `checkStage_eq_ok`, `checkPipeline_eq_ok`, `encodeStage_eq_ok`: what it takes for stages and
  pipelines to be checked and encoded.
-/

namespace DocumentPipeline

/-- The name of an item and the expression that goes by it: a field goes by its own path, anything
else by its alias. -/
def Selectable.entry : Selectable → String × Expression
  | .field f => (f.path, .field f)
  | .aliased name e => (name, e)

theorem Selectable.toMap_eq (items : List Selectable) :
    toMap items = OrderedMap.ofList (items.map entry) := by
  refine congrArg OrderedMap.ofList (List.map_congr_left fun item _ => ?_)
  cases item <;> rfl

def Parameter.expressions : Parameter → List Expression
  | .expression e => [e]
  | .aggregate a => a.arguments

namespace StageBody

/-- The expressions of a stage. -/
def expressions : StageBody → List Expression
  | .addFields entries | .select entries | .distinct entries => entries.map (·.2)
  | .filter c => [c.expression]
  | .aggregate accumulators groups =>
    accumulators.flatMap (·.2.arguments) ++ groups.map (·.2)
  | .findNearest search => [search.vector]
  | .replaceWith e => [e]
  | .unnest e _ _ => [e]
  | .sort keys => keys.map (·.expression)
  | .custom _ parameters => parameters.flatMap (·.expressions)
  | _ => []

/-- The fields that a stage names outside its expressions. The name that an unnested element goes
by is no field here: nothing checks it. -/
def plainFields : StageBody → List Field
  | .removeFields fields => fields
  | .findNearest search => search.field :: search.distanceField.toList
  | .unnest _ _ indexField => indexField.toList
  | _ => []

end StageBody

/-- The expressions of a stage and of its raw options. -/
def Stage.expressions (s : Stage) : List Expression :=
  s.body.expressions ++ s.rawOptions.map (·.2)

section
variable {skipUndefined : Bool}

open Validation Encoding

theorem checkFields_eq_ok {fields : List Field} :
    checkFields fields = .ok () ↔ ∀ f ∈ fields, Dotted f.path := by
  simp only [checkFields, forM_eq_ok, checkField_eq_ok]

theorem checkOptionalField_eq_ok {o : Option Field} :
    o.forM checkField = .ok () ↔ ∀ f ∈ o.toList, Dotted f.path := by
  simp only [option_forM_eq_ok, checkField_eq_ok, Option.mem_toList]

theorem checkAggregate_eq_ok {a : Aggregate} :
    checkAggregate skipUndefined a = .ok () ↔
      ∀ e ∈ a.arguments, checkExpression skipUndefined e = .ok () :=
  checkExpressions_eq_ok

theorem checkParameter_eq_ok {p : Parameter} :
    checkParameter skipUndefined p = .ok () ↔
      ∀ e ∈ p.expressions, checkExpression skipUndefined e = .ok () := by
  cases p <;> simp [checkParameter, Parameter.expressions, checkAggregate_eq_ok]

/-- What a stage does passes its check when its expressions, its fields and the pipeline that it
unites do. -/
theorem checkBody_eq_ok {method : String} {body : StageBody} :
    checkBody skipUndefined method body = .ok () ↔
      (∀ e ∈ body.expressions, checkExpression skipUndefined e = .ok ()) ∧
      (∀ f ∈ body.plainFields, Dotted f.path) ∧
      ∀ other, body = .union other → checkPipeline skipUndefined other = .ok () := by
  cases body with
  | addFields entries | select entries | distinct entries =>
    rw [checkBody, mapError_eq_ok, checkNamed_eq_ok]
    simp only [StageBody.expressions, List.forall_mem_map]
    simp [StageBody.plainFields]
  | removeFields fields =>
    rw [checkBody, mapError_eq_ok, checkFields_eq_ok]
    simp [StageBody.expressions, StageBody.plainFields]
  | aggregate accumulators groups =>
    simp only [checkBody, mapError_eq_ok, then_eq_ok, forM_eq_ok, checkAggregate_eq_ok,
      checkNamed_eq_ok]
    simp only [StageBody.expressions, List.forall_mem_append, List.forall_mem_map,
      List.forall_mem_flatMap]
    simp [StageBody.plainFields]
  | findNearest search =>
    simp only [checkBody, mapError_eq_ok, checkSearch, then_eq_ok, checkField_eq_ok,
      checkOptionalField_eq_ok]
    simp only [StageBody.expressions, StageBody.plainFields, List.forall_mem_cons]
    simp only [List.not_mem_nil, false_implies, implies_true, and_true, reduceCtorEq]
    exact and_left_comm
  | unnest e name indexField =>
    simp only [checkBody, mapError_eq_ok, then_eq_ok, checkOptionalField_eq_ok]
    simp [StageBody.expressions, StageBody.plainFields]
  | sort keys =>
    simp only [checkBody, mapError_eq_ok, forM_eq_ok]
    simp [StageBody.expressions, StageBody.plainFields]
  | custom name parameters =>
    simp only [checkBody, mapError_eq_ok, forM_eq_ok, checkParameter_eq_ok]
    simp only [StageBody.expressions, List.forall_mem_flatMap]
    simp [StageBody.plainFields]
  | _ => simp [checkBody, mapError_eq_ok, StageBody.expressions, StageBody.plainFields]

theorem encodeAggregate_succeeds {a : Aggregate} :
    (∃ v, encodeAggregate skipUndefined a = .ok v) ↔
      ∀ e ∈ a.arguments, ∃ v, encodeExpression skipUndefined e = .ok v := by
  rw [encodeAggregate, bind_return_succeeds, encodeExpressions_succeeds]

theorem encodeParameter_succeeds {p : Parameter} :
    (∃ v, encodeParameter skipUndefined p = .ok v) ↔
      ∀ e ∈ p.expressions, ∃ v, encodeExpression skipUndefined e = .ok v := by
  cases p <;> simp [encodeParameter, Parameter.expressions, encodeAggregate_succeeds]

theorem encodeNamed_succeeds {entries : ExpressionMap} :
    (∃ v, encodeNamed skipUndefined entries = .ok v) ↔
      ∀ entry ∈ entries, ∃ v, encodeExpression skipUndefined entry.2 = .ok v := by
  rw [encodeNamed, bind_return_succeeds, encodeNamedFrom_succeeds]

theorem encodeAccumulators_succeeds {accumulators : OrderedMap Aggregate} :
    (∃ v, encodeAccumulators skipUndefined accumulators = .ok v) ↔
      ∀ entry ∈ accumulators, ∀ e ∈ entry.2.arguments,
        ∃ v, encodeExpression skipUndefined e = .ok v := by
  simp only [encodeAccumulators, bind_return_succeeds, mapM_succeeds, encodeAggregate_succeeds]

/-- A stage has arguments when its expressions and the pipeline that it unites have wire forms. -/
theorem encodeBody_succeeds {body : StageBody} :
    (∃ vs, encodeBody skipUndefined body = .ok vs) ↔
      (∀ e ∈ body.expressions, ∃ v, encodeExpression skipUndefined e = .ok v) ∧
      ∀ other, body = .union other → ∃ w, encodePipeline skipUndefined other = .ok w := by
  cases body with
  | addFields entries | select entries | distinct entries =>
    simp only [encodeBody, mapError_succeeds, bind_return_succeeds, encodeNamed_succeeds]
    simp only [StageBody.expressions, List.forall_mem_map]
    simp
  | aggregate accumulators groups =>
    rw [encodeBody, mapError_succeeds, bind_succeeds]
    simp only [bind_return_succeeds, exists_and_right, encodeAccumulators_succeeds,
      encodeNamed_succeeds]
    simp only [StageBody.expressions, List.forall_mem_append, List.forall_mem_map,
      List.forall_mem_flatMap]
    simp
  | sort keys =>
    simp only [encodeBody, mapError_succeeds, mapM_succeeds, encodeSortKey, bind_return_succeeds]
    simp [StageBody.expressions]
  | custom name parameters =>
    simp only [encodeBody, mapError_succeeds, mapM_succeeds, encodeParameter_succeeds]
    simp only [StageBody.expressions, List.forall_mem_flatMap]
    simp
  | _ =>
    simp only [encodeBody, mapError_succeeds, bind_return_succeeds]
    simp [StageBody.expressions]

theorem checkStage_eq_ok {s : Stage} :
    checkStage skipUndefined s = .ok () ↔
      checkBody skipUndefined s.methodName s.body = .ok () ∧
        ∀ entry ∈ s.rawOptions, checkExpression skipUndefined entry.2 = .ok () := by
  obtain ⟨body, raw⟩ := s
  rw [checkStage, then_eq_ok, mapError_eq_ok, checkNamed_eq_ok]
  rfl

theorem checkPipeline_eq_ok {p : Pipeline} :
    checkPipeline skipUndefined p = .ok () ↔
      ∀ s ∈ p.stages, checkStage skipUndefined s = .ok () := by
  rw [checkPipeline_eq_forM, forM_eq_ok]

theorem encodeStage_eq_ok {s : Stage} {w : Wire.Stage}
    (h : encodeStage skipUndefined s = .ok w) :
    ∃ arguments options, encodeBody skipUndefined s.body = .ok arguments ∧
      (optionScope s.body).merge skipUndefined s.body.computedOptions s.rawOptions = .ok options ∧
      w = ⟨s.name, arguments, options⟩ := by
  obtain ⟨body, raw⟩ := s
  rw [encodeStage, bind_eq_ok] at h
  obtain ⟨arguments, harguments, h⟩ := h
  obtain ⟨options, hoptions, h⟩ := bind_eq_ok.1 h
  cases h
  exact ⟨arguments, options, harguments, hoptions, rfl⟩

end
end DocumentPipeline
