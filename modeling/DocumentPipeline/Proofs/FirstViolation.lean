import DocumentPipeline.Proofs.Contents

/-!
# The violation that a check reports

Everything that a check looks at, listed in the order in which it does so:

* `Leaf`, `Leaf.violation?`: a field, or a literal with the keys that lead to it, and what is wrong
  with it;
* `Expression.leaves`, `StageBody.leaves`: the leaves of an expression and of a stage, depth first
  and from left to right;
* `Pipeline.inspections`: the leaves of a pipeline, each with the method that it is reported
  against;
* `checkPipeline_eq_report`: a check reports the first leaf that something is wrong with.
-/

namespace DocumentPipeline

namespace Validation

/-- What a check looks at: a field, or a literal that is neither an array nor a map. A literal comes
with the keys of the entries that it is in, from the outermost one inwards. -/
inductive Leaf where
  | field (field : Field)
  | literal (keys : List String) (value : Constant)

/-- Where a literal is found: its keys with dots between them. -/
def locationOf : List String → Option String
  | [] => none
  | keys => some (".".intercalate keys)

/-- What is wrong with a leaf. -/
def Leaf.violation? (skipUndefined : Bool) : Leaf → Option Violation
  | .field f =>
    if f.path = "" then some .emptyFieldPath
    else if "" ∈ f.segments then some (.emptyFieldSegment f.path)
    else none
  | .literal keys .undefined => if skipUndefined then none else some (.undefined (locationOf keys))
  | .literal keys (.transform t) => some (.transform t (locationOf keys))
  | .literal _ _ => none

end Validation

open Validation

mutual

/-- The leaves of a literal that stands under the given keys. An array adds no key. -/
def Constant.leaves (keys : List String) : Constant → List Leaf
  | .array items => leavesOfItems keys items
  | .map entries => leavesOfEntries keys entries
  | c => [.literal keys c]

def leavesOfItems (keys : List String) : List Constant → List Leaf
  | [] => []
  | c :: rest => c.leaves keys ++ leavesOfItems keys rest

def leavesOfEntries (keys : List String) : List (String × Constant) → List Leaf
  | [] => []
  | (key, c) :: rest => c.leaves (keys ++ [key]) ++ leavesOfEntries keys rest

end

mutual

/-- The leaves of an expression. A literal stands under a key only where it is itself the value of
an entry. -/
def Expression.leaves : Expression → List Leaf
  | .field f => [.field f]
  | .constant c => c.leaves []
  | .call _ arguments => leavesWithin arguments
  | .list items => leavesWithin items
  | .map entries => leavesUnder entries

def leavesWithin : List Expression → List Leaf
  | [] => []
  | e :: rest => e.leaves ++ leavesWithin rest

def leavesUnder : List (String × Expression) → List Leaf
  | [] => []
  | (key, .constant c) :: rest => c.leaves [key] ++ leavesUnder rest
  | (_, e) :: rest => e.leaves ++ leavesUnder rest

end

/-- The leaves of what a stage does, the pipeline that it unites apart. -/
def StageBody.leaves : StageBody → List Leaf
  | .addFields entries | .select entries | .distinct entries => leavesUnder entries
  | .removeFields fields => fields.map .field
  | .filter c => c.expression.leaves
  | .aggregate accumulators groups =>
    accumulators.flatMap (fun entry => leavesWithin entry.2.arguments) ++ leavesUnder groups
  | .findNearest search =>
    .field search.field :: search.vector.leaves ++ search.distanceField.toList.map .field
  | .replaceWith e => e.leaves
  | .unnest e _ indexField => e.leaves ++ indexField.toList.map .field
  | .sort keys => keys.flatMap (·.expression.leaves)
  | .custom _ parameters => parameters.flatMap fun p => leavesWithin p.expressions
  | _ => []

/-- A leaf and the method of the stage that holds it. -/
structure Inspection where
  method : String
  leaf : Leaf

mutual

/-- Everything that is looked at in what a stage does. A union has the inspections of the pipeline
that it unites, with the methods of the stages in there. -/
def StageBody.inspections (method : String) : StageBody → List Inspection
  | .union other => other.inspections
  | body => body.leaves.map (⟨method, ·⟩)

/-- What a stage does comes first and then its raw options. -/
def Stage.inspections : Stage → List Inspection
  | ⟨body, raw⟩ =>
    body.inspections body.methodName ++ (leavesUnder raw).map (⟨body.methodName, ·⟩)

def inspectionsOfStages : List Stage → List Inspection
  | [] => []
  | s :: rest => s.inspections ++ inspectionsOfStages rest

/-- Everything that is looked at in a pipeline, from its source on. -/
def Pipeline.inspections : Pipeline → List Inspection
  | ⟨_, source, later, _⟩ => source.inspections ++ inspectionsOfStages later

end

/-- The error that an inspection ends in. -/
def Inspection.error? (skipUndefined : Bool) (i : Inspection) : Option PipelineError :=
  (i.leaf.violation? skipUndefined).map (.validation i.method)

theorem leavesOfItems_eq (keys : List String) (items : List Constant) :
    leavesOfItems keys items = items.flatMap (·.leaves keys) := by
  induction items with
  | nil => rfl
  | cons c rest ih => rw [leavesOfItems, ih, List.flatMap_cons]

theorem leavesOfEntries_eq (keys : List String) (entries : List (String × Constant)) :
    leavesOfEntries keys entries =
      entries.flatMap fun entry => entry.2.leaves (keys ++ [entry.1]) := by
  induction entries with
  | nil => rfl
  | cons entry rest ih => rw [leavesOfEntries, ih, List.flatMap_cons]

theorem leavesWithin_eq (items : List Expression) :
    leavesWithin items = items.flatMap (·.leaves) := by
  induction items with
  | nil => rfl
  | cons e rest ih => rw [leavesWithin, ih, List.flatMap_cons]

/-- The leaves of one named expression. -/
def entryLeaves (entry : String × Expression) : List Leaf :=
  match entry.2 with
  | .constant c => c.leaves [entry.1]
  | e => e.leaves

theorem leavesUnder_eq (entries : List (String × Expression)) :
    leavesUnder entries = entries.flatMap entryLeaves := by
  induction entries with
  | nil => rfl
  | cons entry rest ih =>
    obtain ⟨key, e⟩ := entry
    rw [List.flatMap_cons, ← ih]
    cases e <;> rfl

theorem inspectionsOfStages_eq (stages : List Stage) :
    inspectionsOfStages stages = stages.flatMap (·.inspections) := by
  induction stages with
  | nil => rfl
  | cons s rest ih => rw [inspectionsOfStages, ih, List.flatMap_cons]

theorem Pipeline.inspections_eq (p : Pipeline) :
    p.inspections = p.stages.flatMap (·.inspections) := by
  obtain ⟨database, source, later, count⟩ := p
  rw [Pipeline.inspections, inspectionsOfStages_eq, stages, List.flatMap_cons]

namespace Validation

section
variable {α β ε ε' : Type}

/-- Fails with the first fault among some items. -/
def report (fault? : α → Option ε) (items : List α) : Except ε Unit :=
  match items.findSome? fault? with
  | none => .ok ()
  | some e => .error e

theorem report_eq_ok {fault? : α → Option ε} {items : List α} :
    report fault? items = .ok () ↔ ∀ a ∈ items, fault? a = none := by
  rw [report, ← List.findSome?_eq_none_iff]
  cases items.findSome? fault? <;> simp

theorem report_eq_error {fault? : α → Option ε} {items : List α} {e : ε} :
    report fault? items = .error e ↔
      ∃ before a after, items = before ++ a :: after ∧ fault? a = some e ∧
        ∀ b ∈ before, fault? b = none := by
  rw [report, ← List.findSome?_eq_some_iff]
  cases items.findSome? fault? <;> simp

theorem report_singleton (fault? : α → Option ε) (a : α) :
    report fault? [a] = match fault? a with
      | none => .ok ()
      | some e => .error e := by
  rw [report, List.findSome?_cons, List.findSome?_nil]
  cases fault? a <;> rfl

/-- Faults in a first part come before those in a second one. -/
theorem report_append (fault? : α → Option ε) (first second : List α) :
    report fault? (first ++ second) = (do
      report fault? first
      report fault? second) := by
  simp only [report, List.findSome?_append]
  cases first.findSome? fault? <;> rfl

/-- A traversal that reports at each step reports on everything together. -/
theorem report_flatMap {fault? : β → Option ε} {items : List α} {f : α → Except ε Unit}
    {parts : α → List β} (h : ∀ a ∈ items, f a = report fault? (parts a)) :
    items.forM f = report fault? (items.flatMap parts) := by
  rw [List.forM_eq_forM]
  induction items with
  | nil => rfl
  | cons a rest ih =>
    obtain ⟨ha, hrest⟩ := List.forall_mem_cons.1 h
    rw [List.forM_cons, List.flatMap_cons, report_append, ha, ih hrest]

theorem report_map (fault? : β → Option ε) (f : α → β) (items : List α) :
    report fault? (items.map f) = report (fault? ∘ f) items := by
  rw [report, report, List.findSome?_map]

theorem mapError_report (fault? : α → Option ε) (f : ε → ε') (items : List α) :
    (report fault? items).mapError f = report (fun a => (fault? a).map f) items := by
  induction items with
  | nil => rfl
  | cons a rest ih =>
    simp only [report, List.findSome?_cons] at ih ⊢
    cases fault? a with
    | none => exact ih
    | some e => rfl

end

end Validation

section
variable {skipUndefined : Bool}

theorem locationOf_append (keys : List String) (key : String) :
    locationOf (keys ++ [key]) = some (below (locationOf keys) key) := by
  cases keys with
  | nil => rfl
  | cons first rest =>
    change some (".".intercalate ((first :: rest) ++ [key])) = _
    rw [String.intercalate_append_of_ne_nil (by simp) (by simp)]
    simp [locationOf, below]

/-- A check of a literal reports on its leaves. -/
theorem checkConstant_eq_report (keys : List String) (c : Constant) :
    checkConstant skipUndefined (locationOf keys) c =
      report (Leaf.violation? skipUndefined) (c.leaves keys) := by
  induction c using Constant.inductParts generalizing keys with
  | array items ih =>
    rw [checkConstant, checkItems_eq_forM, Constant.leaves, leavesOfItems_eq]
    exact report_flatMap fun c hc => ih c hc keys
  | map entries ih =>
    rw [checkConstant, checkEntries_eq_forM, Constant.leaves, leavesOfEntries_eq]
    refine report_flatMap fun entry hentry => ?_
    rw [← locationOf_append]
    exact ih entry hentry _
  | undefined => cases skipUndefined <;> rfl
  | _ => rfl

theorem checkField_eq_report (f : Field) :
    checkField f = report (Leaf.violation? skipUndefined) [.field f] := by
  rw [report_singleton, checkField, Leaf.violation?]
  split
  · rfl
  · split <;> rfl

theorem checkFields_eq_report (fields : List Field) :
    checkFields fields = report (Leaf.violation? skipUndefined) (fields.map .field) := by
  rw [checkFields, List.map_eq_flatMap]
  exact report_flatMap fun f _ => checkField_eq_report f

theorem checkOptionalField_eq_report (o : Option Field) :
    o.forM checkField = report (Leaf.violation? skipUndefined) (o.toList.map .field) := by
  cases o with
  | none => rfl
  | some f => exact checkField_eq_report f

theorem checkEntry_eq_report {entry : String × Expression}
    (inner : checkExpression skipUndefined entry.2 =
      report (Leaf.violation? skipUndefined) entry.2.leaves) :
    checkEntry skipUndefined entry =
      report (Leaf.violation? skipUndefined) (entryLeaves entry) := by
  obtain ⟨key, e⟩ := entry
  cases e with
  | constant c => exact checkConstant_eq_report [key] c
  | _ => exact inner

/-- **A check of an expression reports on its leaves.** -/
theorem checkExpression_eq_report {e : Expression} :
    checkExpression skipUndefined e = report (Leaf.violation? skipUndefined) e.leaves := by
  induction e using Expression.inductParts with
  | field f => exact checkField_eq_report f
  | constant c => exact checkConstant_eq_report [] c
  | call name items ih | list items ih =>
    rw [checkExpression, checkExpressions_eq_forM, Expression.leaves, leavesWithin_eq]
    exact report_flatMap ih
  | map entries ih =>
    rw [checkExpression, checkNamed_eq_forM, Expression.leaves, leavesUnder_eq]
    exact report_flatMap fun entry hentry => checkEntry_eq_report (ih entry hentry)

theorem checkExpressions_eq_report (items : List Expression) :
    checkExpressions skipUndefined items =
      report (Leaf.violation? skipUndefined) (leavesWithin items) := by
  rw [checkExpressions_eq_forM, leavesWithin_eq]
  exact report_flatMap fun e _ => checkExpression_eq_report

theorem checkNamed_eq_report (entries : List (String × Expression)) :
    checkNamed skipUndefined entries =
      report (Leaf.violation? skipUndefined) (leavesUnder entries) := by
  rw [checkNamed_eq_forM, leavesUnder_eq]
  exact report_flatMap fun entry _ => checkEntry_eq_report checkExpression_eq_report

theorem checkParameter_eq_report (p : Parameter) :
    checkParameter skipUndefined p =
      report (Leaf.violation? skipUndefined) (leavesWithin p.expressions) := by
  cases p with
  | expression e =>
    rw [checkParameter, checkExpression_eq_report, Parameter.expressions, leavesWithin_eq,
      List.flatMap_singleton]
  | aggregate a => exact checkExpressions_eq_report a.arguments

/-- A violation that a stage reports names the method of the stage. -/
theorem mapError_validation_report (method : String) (leaves : List Leaf) :
    (report (Leaf.violation? skipUndefined) leaves).mapError (.validation method) =
      report (Inspection.error? skipUndefined) (leaves.map (⟨method, ·⟩)) := by
  rw [mapError_report, report_map]
  rfl

/-- A check of what a stage does reports on its inspections, if the check of the pipeline that it
unites does so. -/
theorem checkBody_eq_report {method : String} {body : StageBody}
    (inner : ∀ other, body = .union other → checkPipeline skipUndefined other =
      report (Inspection.error? skipUndefined) other.inspections) :
    checkBody skipUndefined method body =
      report (Inspection.error? skipUndefined) (body.inspections method) := by
  cases body with
  | union other => exact inner other rfl
  | addFields entries | select entries | distinct entries =>
    rw [checkBody, checkNamed_eq_report, mapError_validation_report]
    rfl
  | removeFields fields =>
    rw [checkBody, checkFields_eq_report, mapError_validation_report]
    rfl
  | filter c =>
    rw [checkBody, checkExpression_eq_report, mapError_validation_report]
    rfl
  | aggregate accumulators groups =>
    have accumulated : (accumulators.forM fun entry => checkAggregate skipUndefined entry.2) =
        report (Leaf.violation? skipUndefined)
          (accumulators.flatMap fun entry => leavesWithin entry.2.arguments) :=
      report_flatMap fun entry _ => checkExpressions_eq_report entry.2.arguments
    rw [checkBody, accumulated, checkNamed_eq_report, ← report_append, mapError_validation_report]
    rfl
  | findNearest search =>
    rw [checkBody, checkSearch, checkField_eq_report, checkExpression_eq_report,
      checkOptionalField_eq_report, ← report_append, ← report_append, mapError_validation_report]
    rfl
  | replaceWith e =>
    rw [checkBody, checkExpression_eq_report, mapError_validation_report]
    rfl
  | unnest e name indexField =>
    rw [checkBody, checkExpression_eq_report, checkOptionalField_eq_report, ← report_append,
      mapError_validation_report]
    rfl
  | sort keys =>
    have ordered : (keys.forM fun k => checkExpression skipUndefined k.expression) =
        report (Leaf.violation? skipUndefined) (keys.flatMap (·.expression.leaves)) :=
      report_flatMap fun k _ => checkExpression_eq_report
    rw [checkBody, ordered, mapError_validation_report]
    rfl
  | custom name parameters =>
    have taken : parameters.forM (checkParameter skipUndefined) =
        report (Leaf.violation? skipUndefined)
          (parameters.flatMap fun p => leavesWithin p.expressions) :=
      report_flatMap fun p _ => checkParameter_eq_report p
    rw [checkBody, taken, mapError_validation_report]
    rfl
  | _ => rfl

theorem checkStage_eq_report {s : Stage}
    (inner : ∀ other, s.body = .union other → checkPipeline skipUndefined other =
      report (Inspection.error? skipUndefined) other.inspections) :
    checkStage skipUndefined s = report (Inspection.error? skipUndefined) s.inspections := by
  obtain ⟨body, raw⟩ := s
  rw [checkStage, checkBody_eq_report inner, checkNamed_eq_report, mapError_validation_report,
    Stage.inspections, report_append]

/-- **A check of a pipeline reports on its inspections**, those of the pipelines nested in it
included. -/
theorem checkPipeline_eq_report {p : Pipeline} :
    checkPipeline skipUndefined p =
      report (Inspection.error? skipUndefined) p.inspections := by
  induction p using Pipeline.inductNested with
  | step p ih =>
    rw [checkPipeline_eq_forM, Pipeline.inspections_eq]
    exact report_flatMap fun s hs => checkStage_eq_report (ih s hs)

/-- **A check stops at the first violation.** A pipeline passes when nothing is wrong with any of
its leaves. Otherwise the error is what is wrong with the first leaf that something is wrong with,
reported against the method of the stage that holds it. -/
theorem checkPipeline_reports_first (skipUndefined : Bool) (p : Pipeline) :
    (checkPipeline skipUndefined p = .ok () ↔
      ∀ i ∈ p.inspections, i.leaf.violation? skipUndefined = none) ∧
    ∀ err, checkPipeline skipUndefined p = .error err ↔
      ∃ before i after violation, p.inspections = before ++ i :: after ∧
        (∀ earlier ∈ before, earlier.leaf.violation? skipUndefined = none) ∧
        i.leaf.violation? skipUndefined = some violation ∧
        err = .validation i.method violation := by
  have passes (i : Inspection) :
      i.error? skipUndefined = none ↔ i.leaf.violation? skipUndefined = none := by
    simp [Inspection.error?]
  rw [checkPipeline_eq_report]
  constructor
  · rw [report_eq_ok]
    exact forall₂_congr fun i _ => passes i
  · intro err
    rw [report_eq_error]
    constructor
    · rintro ⟨before, i, after, split, fails, earlier⟩
      obtain ⟨violation, found, rfl⟩ := Option.map_eq_some_iff.1 fails
      have earlier := fun j hj => (passes j).1 (earlier j hj)
      exact ⟨before, i, after, violation, split, earlier, found, rfl⟩
    · rintro ⟨before, i, after, violation, split, earlier, found, rfl⟩
      refine ⟨before, i, after, split, ?_, fun j hj => (passes j).2 (earlier j hj)⟩
      rw [Inspection.error?, found]
      rfl

/-- A union reports what is wrong inside against the stage that holds it. Arrays add nothing to the
location. -/
example (db : DatabaseId) :
    let all : Pipeline := ⟨db, ⟨.database, []⟩, [], 1⟩
    let inner := all.append
      (.select [("doc", .constant (.map [("outer", .array [.undefined])]))]) []
    checkPipeline false (all.append (.union inner) []) =
      .error (.validation "Pipeline::select" (.undefined (some "doc.outer"))) := rfl

end
end DocumentPipeline
