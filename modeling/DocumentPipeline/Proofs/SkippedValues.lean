import DocumentPipeline.Proofs.Contents
import DocumentPipeline.Proofs.Pruning

/-!
# Skipping absent values

Skipping absent values is the same as removing them first and being strict about the rest:

* `checkBody_prune`, `encodeBody_prune`, `merge_prune`: stages and their options;
* `checkPipeline_prune`, `encodePipeline_prune`: pipelines, errors included;
* `Pipeline.prune_eq_self`: a pipeline that passes a strict check has nothing to remove;
* `toWire_prune`: what follows for checking and encoding together.
-/

namespace DocumentPipeline

section
open Validation Encoding

theorem StageBody.name_prune (body : StageBody) : body.prune.name = body.name := by
  cases body <;> rfl

theorem StageBody.methodName_prune (body : StageBody) :
    body.prune.methodName = body.methodName := by
  cases body <;> rfl

theorem StageBody.computedOptions_prune (body : StageBody) :
    body.prune.computedOptions = body.computedOptions := by
  cases body <;> rfl

theorem optionScope_prune (body : StageBody) : optionScope body.prune = optionScope body := by
  cases body <;> rfl

/-- What a stage does is checked as what is left of it, if this holds of the pipeline it unites. -/
theorem checkBody_prune {method : String} {body : StageBody}
    (inner : ∀ other, body = .union other →
      checkPipeline true other = checkPipeline false other.prune) :
    checkBody true method body = checkBody false method body.prune := by
  cases body with
  | union other => exact inner other rfl
  | addFields entries | select entries | distinct entries =>
    rw [StageBody.prune, checkBody, checkBody, checkNamed_prune fun _ _ => checkExpression_prune]
  | filter c => rw [StageBody.prune, checkBody, checkBody, checkExpression_prune]
  | aggregate accumulators groups =>
    rw [StageBody.prune, checkBody, checkBody, checkNamed_prune fun _ _ => checkExpression_prune,
      List.forM_eq_forM, List.forM_map]
    simp only [checkAggregate_prune]
  | findNearest search =>
    rw [StageBody.prune, checkBody, checkBody, checkSearch, checkSearch, checkExpression_prune]
  | replaceWith e => rw [StageBody.prune, checkBody, checkBody, checkExpression_prune]
  | unnest e name indexField =>
    rw [StageBody.prune, checkBody, checkBody, checkExpression_prune]
  | sort keys =>
    rw [StageBody.prune, checkBody, checkBody, List.forM_eq_forM, List.forM_map]
    simp only [checkExpression_prune]
    rfl
  | custom name parameters =>
    rw [StageBody.prune, checkBody, checkBody, List.forM_eq_forM, List.forM_map]
    congr 2
    exact funext fun p => checkParameter_prune
  | _ => rfl

theorem encodeBody_prune {body : StageBody}
    (inner : ∀ other, body = .union other →
      encodePipeline true other = encodePipeline false other.prune) :
    encodeBody true body = encodeBody false body.prune := by
  cases body with
  | union other => rw [StageBody.prune, encodeBody, encodeBody, inner other rfl]
  | addFields entries | select entries | distinct entries =>
    rw [StageBody.prune, encodeBody, encodeBody, encodeNamed_prune]
  | filter c => rw [StageBody.prune, encodeBody, encodeBody, encodeExpression_prune]
  | aggregate accumulators groups =>
    rw [StageBody.prune, encodeBody, encodeBody, encodeAccumulators_prune, encodeNamed_prune]
  | findNearest search => rw [StageBody.prune, encodeBody, encodeBody, encodeExpression_prune]
  | replaceWith e => rw [StageBody.prune, encodeBody, encodeBody, encodeExpression_prune]
  | unnest e name indexField => rw [StageBody.prune, encodeBody, encodeBody, encodeExpression_prune]
  | sort keys =>
    rw [StageBody.prune, encodeBody, encodeBody, List.mapM_map,
      mapM_congr fun k _ => encodeSortKey_prune]
    rfl
  | custom name parameters =>
    rw [StageBody.prune, encodeBody, encodeBody, List.mapM_map,
      mapM_congr fun p _ => encodeParameter_prune]
    rfl
  | _ => rfl

/-- The known options of a stage hold no literals, so that skipping makes no difference. -/
theorem mergeComputed_skip (body : StageBody) :
    (optionScope body).mergeComputed true body.computedOptions =
      (optionScope body).mergeComputed false body.computedOptions := by
  cases body with
  | collection c forceIndex | collectionGroup id forceIndex => cases forceIndex <;> rfl
  | findNearest search =>
    obtain ⟨field, vector, measure, limit, distanceField⟩ := search
    cases limit <;> cases distanceField <;> rfl
  | unnest e name indexField => cases indexField <;> rfl
  | _ => rfl

theorem mergeRaw_prune {scope : OptionScope} {raw : RawOptions} {m : FieldMap Wire.Value} :
    scope.mergeRaw true raw m = scope.mergeRaw false raw.prune m := by
  induction raw generalizing m with
  | nil => rfl
  | cons entry rest ih =>
    have applied : scope.applyRaw true m entry.1 entry.2 =
        scope.applyRaw false m entry.1 entry.2.prune := by
      rw [OptionScope.applyRaw, OptionScope.applyRaw, encodeExpression_prune]
    rw [OptionScope.mergeRaw, RawOptions.prune, List.map_cons, OptionScope.mergeRaw, applied]
    simp only [ih, RawOptions.prune]

theorem merge_prune (body : StageBody) (raw : RawOptions) :
    (optionScope body).merge true body.computedOptions raw =
      (optionScope body.prune).merge false body.prune.computedOptions raw.prune := by
  rw [optionScope_prune, body.computedOptions_prune, OptionScope.merge, OptionScope.merge,
    mergeComputed_skip]
  simp only [mergeRaw_prune]

theorem checkRaw_prune {raw : RawOptions} : checkNamed true raw = checkNamed false raw.prune := by
  rw [checkNamed_eq_forM, checkNamed_eq_forM, RawOptions.prune, List.forM_eq_forM, List.forM_map]
  exact forM_congr fun entry _ => checkEntry_prune checkExpression_prune

/-- **Checking a pipeline** while skipping absent values finds what a strict check finds in the rest
of it. -/
theorem checkPipeline_prune {p : Pipeline} :
    checkPipeline true p = checkPipeline false p.prune := by
  induction p using Pipeline.inductNested with
  | step p ih =>
    rw [checkPipeline_eq_forM, checkPipeline_eq_forM, p.stages_prune, List.forM_eq_forM,
      List.forM_map]
    refine forM_congr fun s hs => ?_
    obtain ⟨body, raw⟩ := s
    rw [Stage.prune, checkStage, checkStage, body.methodName_prune, checkRaw_prune,
      checkBody_prune (ih _ hs)]

theorem encodePipeline_prune {p : Pipeline} :
    encodePipeline true p = encodePipeline false p.prune := by
  induction p using Pipeline.inductNested with
  | step p ih =>
    rw [encodePipeline_eq_mapM, encodePipeline_eq_mapM, p.stages_prune, List.mapM_map]
    refine mapM_congr fun s hs => ?_
    obtain ⟨body, raw⟩ := s
    rw [Function.comp, Stage.prune, encodeStage, encodeStage, body.name_prune, merge_prune,
      encodeBody_prune (ih _ hs)]

theorem kept_eq_self {α : Type} {dropped : α → Bool} {change : α → α} {entries : List (String × α)}
    (stays : ∀ entry ∈ entries, dropped entry.2 = false)
    (same : ∀ entry ∈ entries, change entry.2 = entry.2) :
    (kept dropped entries).map (changeValue change) = entries := by
  have all : kept dropped entries = entries :=
    List.filter_eq_self.2 fun entry hentry => by simp [stays entry hentry]
  rw [all]
  exact map_eq_self_iff.2 fun entry hentry => by rw [changeValue, same entry hentry]

/-- A literal that passes a strict check has no absent values. -/
theorem Constant.prune_eq_self {location : Option String} {c : Constant}
    (h : checkConstant false location c = .ok ()) : c.prune = c := by
  induction c using Constant.inductParts generalizing location with
  | array items ih =>
    rw [checkConstant, checkItems_eq_forM, forM_eq_ok] at h
    rw [prune, pruneItems_eq, map_eq_self_iff.2 fun c hc => ih c hc (h c hc)]
  | map entries ih =>
    rw [checkConstant, checkEntries_eq_forM, forM_eq_ok] at h
    rw [prune, pruneEntries_eq]
    refine congrArg map (kept_eq_self (fun entry hentry => ?_) fun entry hentry =>
      ih entry hentry (h entry hentry))
    rw [← Bool.not_eq_true, isUndefined_iff]
    intro absent
    have := h entry hentry
    rw [absent] at this
    cases this
  | undefined => cases h
  | _ => rfl

theorem pruneNamed_eq_self {entries : List (String × Expression)}
    (checked : ∀ entry ∈ entries, checkExpression false entry.2 = .ok ())
    (same : ∀ entry ∈ entries, entry.2.prune = entry.2) : pruneNamed entries = entries := by
  rw [pruneNamed_eq]
  refine kept_eq_self (fun entry hentry => ?_) same
  rw [← Bool.not_eq_true, isUndefined_iff]
  intro absent
  have := checked entry hentry
  rw [absent] at this
  cases this

theorem Expression.prune_eq_self {e : Expression} (h : checkExpression false e = .ok ()) :
    e.prune = e := by
  induction e using Expression.inductParts with
  | field f => rfl
  | constant c => exact congrArg constant (Constant.prune_eq_self h)
  | call name items ih | list items ih =>
    rw [checkExpression, checkExpressions_eq_ok] at h
    rw [prune, pruneList_eq, map_eq_self_iff.2 fun e he => ih e he (h e he)]
  | map entries ih =>
    rw [checkExpression, checkNamed_eq_ok] at h
    rw [prune, pruneNamed_eq_self h fun entry hentry => ih entry hentry (h entry hentry)]

theorem Aggregate.prune_eq_self {a : Aggregate}
    (h : ∀ e ∈ a.arguments, checkExpression false e = .ok ()) : a.prune = a := by
  rw [prune, map_eq_self_iff.2 fun e he => Expression.prune_eq_self (h e he)]

theorem StageBody.prune_eq_self {body : StageBody}
    (h : ∀ e ∈ body.expressions, checkExpression false e = .ok ())
    (inner : ∀ other, body = .union other → other.prune = other) : body.prune = body := by
  have named {entries : ExpressionMap}
      (h : ∀ e ∈ entries.map (·.2), checkExpression false e = .ok ()) :
      pruneNamed entries = entries := by
    have checked := List.forall_mem_map.1 h
    exact pruneNamed_eq_self checked fun entry hentry =>
      Expression.prune_eq_self (checked entry hentry)
  cases body with
  | union other => rw [prune, inner other rfl]
  | addFields entries | select entries | distinct entries => rw [prune, named h]
  | filter c => rw [prune, Expression.prune_eq_self (h _ List.mem_cons_self)]
  | aggregate accumulators groups =>
    obtain ⟨inAccumulators, inGroups⟩ := List.forall_mem_append.1 h
    rw [prune, named inGroups]
    refine congrArg (aggregate · groups) (map_eq_self_iff.2 fun entry hentry => ?_)
    rw [Aggregate.prune_eq_self (List.forall_mem_flatMap.1 inAccumulators entry hentry)]
  | findNearest search => rw [prune, Expression.prune_eq_self (h _ List.mem_cons_self)]
  | replaceWith e => rw [prune, Expression.prune_eq_self (h _ List.mem_cons_self)]
  | unnest e name indexField => rw [prune, Expression.prune_eq_self (h _ List.mem_cons_self)]
  | sort keys =>
    refine congrArg sort (map_eq_self_iff.2 fun k hk => ?_)
    rw [SortKey.prune, Expression.prune_eq_self (h _ (List.mem_map_of_mem hk))]
  | custom name parameters =>
    refine congrArg (custom name) (map_eq_self_iff.2 fun p hp => ?_)
    have checked := List.forall_mem_flatMap.1 h p hp
    cases p with
    | expression e =>
      exact congrArg Parameter.expression (Expression.prune_eq_self (checked e List.mem_cons_self))
    | aggregate a => exact congrArg Parameter.aggregate (Aggregate.prune_eq_self checked)
  | _ => rfl

/-- A pipeline that passes a strict check has no absent values. -/
theorem Pipeline.prune_eq_self {p : Pipeline} (h : checkPipeline false p = .ok ()) :
    p.prune = p := by
  induction p using Pipeline.inductNested with
  | step p ih =>
    rw [checkPipeline_eq_ok] at h
    have same : ∀ s ∈ p.stages, s.prune = s := by
      intro s hs
      obtain ⟨hbody, hraw⟩ := checkStage_eq_ok.1 (h s hs)
      obtain ⟨hexpressions, -, hunion⟩ := checkBody_eq_ok.1 hbody
      have body := StageBody.prune_eq_self hexpressions fun other union =>
        ih s hs other union (hunion other union)
      have raw : s.rawOptions.prune = s.rawOptions := map_eq_self_iff.2 fun entry hentry => by
        rw [Expression.prune_eq_self (hraw entry hentry)]
      obtain ⟨b, r⟩ := s
      exact congrArg₂ Stage.mk body raw
    obtain ⟨database, source, later, count⟩ := p
    obtain ⟨hsource, hlater⟩ := List.forall_mem_cons.1 same
    rw [prune, hsource, pruneStages_eq, map_eq_self_iff.2 hlater]

/-- **Skipping absent values** is removing them and then encoding strictly: the wire form is the
same, or the error is, and so is what a check finds. A pipeline that is accepted without skipping is
sent no differently with it. -/
theorem toWire_prune (p : Pipeline) :
    p.toWire true = p.prune.toWire false ∧
    checkPipeline true p = checkPipeline false p.prune ∧
    (checkPipeline false p = .ok () → checkPipeline true p = .ok ()) ∧
    ∀ w, p.toWire false = .ok w → p.toWire true = .ok w := by
  have skipped : p.toWire true = p.prune.toWire false := by
    rw [Pipeline.toWire, Pipeline.toWire, checkPipeline_prune, encodePipeline_prune]
  refine ⟨skipped, checkPipeline_prune, fun checked => ?_, fun w sent => ?_⟩
  · rw [checkPipeline_prune, Pipeline.prune_eq_self checked, checked]
  · obtain ⟨⟨⟩, checked, -⟩ := bind_eq_ok.1 sent
    rw [skipped, Pipeline.prune_eq_self checked, sent]

end
end DocumentPipeline
