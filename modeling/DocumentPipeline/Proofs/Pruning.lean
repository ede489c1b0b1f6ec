import DocumentPipeline.Proofs.Expressions

/-!
# Removing absent values

To remove the absent values of a pipeline is to leave out every entry of a map that is one and to
put null in the place of every other.

* `Pipeline.prune`: a pipeline without its absent values;
* `checkExpression_prune`, `encodeExpression_prune`: skipping absent values in an expression agrees
  with a strict walk over what is left of it, errors and locations included.
-/

namespace DocumentPipeline

mutual

/-- A literal with absent values left out of its maps and null everywhere else. A field transform
stays as it is: it is never sent. -/
def Constant.prune : Constant → Constant
  | .undefined => .null
  | .array items => .array (pruneItems items)
  | .map entries => .map (pruneEntries entries)
  | c => c

def pruneItems : List Constant → List Constant
  | [] => []
  | c :: rest => c.prune :: pruneItems rest

def pruneEntries : List (String × Constant) → List (String × Constant)
  | [] => []
  | (_, .undefined) :: rest => pruneEntries rest
  | (key, c) :: rest => (key, c.prune) :: pruneEntries rest

end

mutual

/-- An expression with absent values left out of its maps and null everywhere else. -/
def Expression.prune : Expression → Expression
  | .field f => .field f
  | .constant c => .constant c.prune
  | .call name arguments => .call name (pruneList arguments)
  | .list items => .list (pruneList items)
  | .map entries => .map (pruneNamed entries)

def pruneList : List Expression → List Expression
  | [] => []
  | e :: rest => e.prune :: pruneList rest

def pruneNamed : List (String × Expression) → List (String × Expression)
  | [] => []
  | (_, .constant .undefined) :: rest => pruneNamed rest
  | (key, e) :: rest => (key, e.prune) :: pruneNamed rest

end

def Aggregate.prune (a : Aggregate) : Aggregate := ⟨a.name, a.arguments.map (·.prune)⟩

def SortKey.prune (k : SortKey) : SortKey := ⟨k.expression.prune, k.direction⟩

def Parameter.prune : Parameter → Parameter
  | .expression e => .expression e.prune
  | .aggregate a => .aggregate a.prune

/-- Raw options keep their keys, also those without a value. -/
def RawOptions.prune (raw : RawOptions) : RawOptions :=
  raw.map fun entry => (entry.1, entry.2.prune)

mutual

def StageBody.prune : StageBody → StageBody
  | .addFields entries => .addFields (pruneNamed entries)
  | .select entries => .select (pruneNamed entries)
  | .distinct entries => .distinct (pruneNamed entries)
  | .filter c => .filter ⟨c.expression.prune⟩
  | .aggregate accumulators groups =>
    .aggregate (accumulators.map fun entry => (entry.1, entry.2.prune)) (pruneNamed groups)
  | .findNearest search => .findNearest { search with vector := search.vector.prune }
  | .replaceWith e => .replaceWith e.prune
  | .union other => .union other.prune
  | .unnest e name indexField => .unnest e.prune name indexField
  | .sort keys => .sort (keys.map (·.prune))
  | .custom name parameters => .custom name (parameters.map (·.prune))
  | body => body

def Stage.prune : Stage → Stage
  | ⟨body, raw⟩ => ⟨body.prune, raw.prune⟩

def pruneStages : List Stage → List Stage
  | [] => []
  | s :: rest => s.prune :: pruneStages rest

/-- A pipeline without absent values, also in the pipelines nested in it. -/
def Pipeline.prune : Pipeline → Pipeline
  | ⟨database, source, later, count⟩ => ⟨database, source.prune, pruneStages later, count⟩

end

/-- An entry with its value changed. -/
def changeValue {α : Type} (change : α → α) (entry : String × α) : String × α :=
  (entry.1, change entry.2)

section
open Encoding

theorem pruneItems_eq (items : List Constant) : pruneItems items = items.map (·.prune) := by
  induction items with
  | nil => rfl
  | cons c rest ih => rw [pruneItems, ih, List.map_cons]

theorem pruneList_eq (items : List Expression) : pruneList items = items.map (·.prune) := by
  induction items with
  | nil => rfl
  | cons e rest ih => rw [pruneList, ih, List.map_cons]

theorem pruneStages_eq (stages : List Stage) : pruneStages stages = stages.map (·.prune) := by
  induction stages with
  | nil => rfl
  | cons s rest ih => rw [pruneStages, ih, List.map_cons]

theorem pruneEntries_eq (entries : List (String × Constant)) :
    pruneEntries entries =
      (kept Constant.isUndefined entries).map (changeValue Constant.prune) := by
  induction entries with
  | nil => rfl
  | cons entry rest ih =>
    obtain ⟨key, c⟩ := entry
    rw [kept] at ih ⊢
    cases c <;> simp [pruneEntries, ih, changeValue, Constant.isUndefined]

theorem pruneNamed_eq (entries : List (String × Expression)) :
    pruneNamed entries = (kept isUndefined entries).map (changeValue Expression.prune) := by
  induction entries with
  | nil => rfl
  | cons entry rest ih =>
    obtain ⟨key, e⟩ := entry
    rw [kept] at ih ⊢
    cases e with
    | constant c =>
      cases c <;> simp [pruneNamed, ih, changeValue, isUndefined, Constant.isUndefined]
    | _ => simp [pruneNamed, ih, changeValue, isUndefined]

theorem Pipeline.stages_prune (p : Pipeline) : p.prune.stages = p.stages.map (·.prune) := by
  obtain ⟨database, source, later, count⟩ := p
  simp only [prune, stages, pruneStages_eq, List.map_cons]

end

section
variable {α : Type} {dropped : α → Bool} {change : α → α} {entries : List (String × α)}

open Validation Encoding
open Wire (Value)

/-- Entries that would pass a check anyway may be left out, and the others changed, as long as the
check finds the same in them. -/
theorem forM_kept {f g : String × α → Check}
    (same : ∀ entry ∈ entries, f entry = g (changeValue change entry))
    (passes : ∀ entry ∈ entries, dropped entry.2 = true → f entry = .ok ()) :
    entries.forM f = ((kept dropped entries).map (changeValue change)).forM g := by
  have left : entries.forM f = (kept dropped entries).forM f := by
    refine (forM_filter fun entry hentry hkept => passes entry hentry ?_).symm
    simpa using hkept
  rw [left, List.forM_eq_forM, List.forM_map]
  exact forM_congr fun entry hentry => same entry (List.mem_of_mem_filter hentry)

theorem mapM_kept {encode encode' : α → Encoded Value}
    (same : ∀ entry ∈ entries, encode entry.2 = encode' (change entry.2)) :
    (kept dropped entries).mapM (encodeUnder encode) =
      ((kept dropped entries).map (changeValue change)).mapM (encodeUnder encode') := by
  rw [List.mapM_map]
  refine mapM_congr fun entry hentry => ?_
  simp only [Function.comp, encodeUnder, changeValue, same entry (List.mem_of_mem_filter hentry)]

theorem kept_false : kept (fun _ => false) entries = entries := by simp [kept]

end

section
open Validation Encoding

theorem checkConstant_prune {location : Option String} {c : Constant} :
    checkConstant true location c = checkConstant false location c.prune := by
  induction c using Constant.inductParts generalizing location with
  | array items ih =>
    rw [Constant.prune, checkConstant, checkConstant, checkItems_eq_forM, checkItems_eq_forM,
      pruneItems_eq, List.forM_eq_forM, List.forM_map]
    exact forM_congr fun c hc => ih c hc
  | map entries ih =>
    rw [Constant.prune, checkConstant, checkConstant, checkEntries_eq_forM, checkEntries_eq_forM,
      pruneEntries_eq]
    refine forM_kept (fun entry hentry => ih entry hentry) fun entry _ absent => ?_
    rw [Constant.isUndefined_iff.1 absent]
    rfl
  | _ => rfl

theorem encodeConstant_prune {c : Constant} :
    encodeConstant true c = encodeConstant false c.prune := by
  induction c using Constant.inductParts with
  | array items ih =>
    rw [Constant.prune, encodeConstant, encodeConstant, encodeConstants_eq_mapM,
      encodeConstants_eq_mapM, pruneItems_eq, List.mapM_map, mapM_congr fun c hc => ih c hc]
    rfl
  | map entries ih =>
    simp only [Constant.prune, encodeConstant, encodeEntries_eq, pruneEntries_eq, Bool.true_and,
      Bool.false_and, kept_false]
    rw [mapM_kept ih]
  | _ => rfl

theorem checkEntry_prune {entry : String × Expression}
    (same : checkExpression true entry.2 = checkExpression false entry.2.prune) :
    checkEntry true entry = checkEntry false (changeValue Expression.prune entry) := by
  obtain ⟨key, e⟩ := entry
  cases e with
  | constant c => exact checkConstant_prune
  | _ => exact same

theorem checkNamed_prune {entries : List (String × Expression)}
    (same : ∀ entry ∈ entries, checkExpression true entry.2 = checkExpression false entry.2.prune) :
    checkNamed true entries = checkNamed false (pruneNamed entries) := by
  rw [checkNamed_eq_forM, checkNamed_eq_forM, pruneNamed_eq]
  refine forM_kept (fun entry hentry => checkEntry_prune (same entry hentry)) ?_
  intro entry _ absent
  rw [checkEntry_eq_ok, isUndefined_iff.1 absent]
  rfl

theorem encodeNamedFrom_prune {entries : List (String × Expression)} {before : FieldMap Wire.Value}
    (same : ∀ entry ∈ entries,
      encodeExpression true entry.2 = encodeExpression false entry.2.prune) :
    encodeNamedFrom true entries before = encodeNamedFrom false (pruneNamed entries) before := by
  simp only [encodeNamedFrom_eq, pruneNamed_eq, Bool.true_and, Bool.false_and, kept_false]
  rw [mapM_kept same]

/-- **Checking an expression** finds the same in what is left of it. -/
theorem checkExpression_prune {e : Expression} :
    checkExpression true e = checkExpression false e.prune := by
  induction e using Expression.inductParts with
  | field f => rfl
  | constant c => exact checkConstant_prune
  | call name items ih | list items ih =>
    rw [Expression.prune, checkExpression, checkExpression, checkExpressions_eq_forM,
      checkExpressions_eq_forM, pruneList_eq, List.forM_eq_forM, List.forM_map]
    exact forM_congr ih
  | map entries ih =>
    rw [Expression.prune, checkExpression, checkExpression]
    exact checkNamed_prune ih

/-- **Encoding an expression** gives the wire form of what is left of it. -/
theorem encodeExpression_prune {e : Expression} :
    encodeExpression true e = encodeExpression false e.prune := by
  induction e using Expression.inductParts with
  | field f => rfl
  | constant c => exact encodeConstant_prune
  | call name items ih | list items ih =>
    rw [Expression.prune, encodeExpression, encodeExpression, encodeExpressions_eq_mapM,
      encodeExpressions_eq_mapM, pruneList_eq, List.mapM_map, mapM_congr ih]
    rfl
  | map entries ih =>
    rw [Expression.prune, encodeExpression, encodeExpression, encodeNamedFrom_prune ih]

theorem checkExpressions_prune {items : List Expression} :
    checkExpressions true items = checkExpressions false (items.map (·.prune)) := by
  rw [checkExpressions_eq_forM, checkExpressions_eq_forM, List.forM_eq_forM, List.forM_map]
  exact forM_congr fun e _ => checkExpression_prune

theorem encodeExpressions_prune {items : List Expression} :
    encodeExpressions true items = encodeExpressions false (items.map (·.prune)) := by
  rw [encodeExpressions_eq_mapM, encodeExpressions_eq_mapM, List.mapM_map]
  exact mapM_congr fun e _ => encodeExpression_prune

theorem encodeNamed_prune {entries : ExpressionMap} :
    encodeNamed true entries = encodeNamed false (pruneNamed entries) := by
  rw [encodeNamed, encodeNamed, encodeNamedFrom_prune fun entry _ => encodeExpression_prune]

theorem checkAggregate_prune {a : Aggregate} :
    checkAggregate true a = checkAggregate false a.prune :=
  checkExpressions_prune

theorem encodeAggregate_prune {a : Aggregate} :
    encodeAggregate true a = encodeAggregate false a.prune := by
  rw [encodeAggregate, encodeAggregate, Aggregate.prune, encodeExpressions_prune]

theorem checkParameter_prune {p : Parameter} :
    checkParameter true p = checkParameter false p.prune := by
  cases p with
  | expression e => exact checkExpression_prune
  | aggregate a => exact checkAggregate_prune

theorem encodeParameter_prune {p : Parameter} :
    encodeParameter true p = encodeParameter false p.prune := by
  cases p with
  | expression e => exact encodeExpression_prune
  | aggregate a => exact encodeAggregate_prune

theorem encodeAccumulators_prune {accumulators : OrderedMap Aggregate} :
    encodeAccumulators true accumulators =
      encodeAccumulators false (accumulators.map fun entry => (entry.1, entry.2.prune)) := by
  rw [encodeAccumulators, encodeAccumulators, List.mapM_map]
  simp only [encodeAggregate_prune]
  rfl

theorem encodeSortKey_prune {k : SortKey} : encodeSortKey true k = encodeSortKey false k.prune := by
  rw [encodeSortKey, encodeSortKey, SortKey.prune, encodeExpression_prune]

end
end DocumentPipeline
