import DocumentPipeline.Proofs.LastEntries
import DocumentPipeline.Proofs.Pruning
import DocumentPipeline.Proofs.ValueViews

/-!
# Literals in two forms

Items that are all literals make an array that is a literal, or a list of expressions each of which
is one. A map of literals has two forms in the same way. What is sent does not tell which of them an
expression was made of.

* `encodeExpression_ofItems`, `checkExpression_ofItems`: an array of items is a list of them;
* `Expression.collapse`: an expression with an array in the place of every list, at any depth;
* `encodeExpression_collapse`, `checkExpression_collapse`: it is sent as the expression itself;
* `encodeExpression_literals`: a map of literals is sent as the entries that count;
* `literals_sent_alike`: both forms of arrays, of maps and of JSON values.
-/

namespace DocumentPipeline

open Validation Encoding

namespace Expression

theorem constants?_eq_some {items : List Expression} {values : List Constant} :
    constants? items = some values ↔ items = values.map .constant := by
  induction items generalizing values with
  | nil => simp [constants?, eq_comm]
  | cons e rest ih =>
    cases e with
    | constant c =>
      rw [constants?, Option.map_eq_some_iff]
      simp only [ih]
      constructor
      · rintro ⟨values, rfl, rfl⟩
        rfl
      · intro same
        cases values with
        | nil => cases same
        | cons c' values =>
          cases same
          exact ⟨values, rfl, rfl⟩
    | _ => cases values <;> simp [constants?]

mutual

/-- An expression with an array in the place of every list: inside calls, lists and maps, whatever
their depth, a list of literals is a literal. -/
def collapse : Expression → Expression
  | .field f => .field f
  | .constant c => .constant c
  | .call name arguments => .call name (collapseItems arguments)
  | .list items => .ofItems (collapseItems items)
  | .map entries => .map (collapseEntries entries)

def collapseItems : List Expression → List Expression
  | [] => []
  | e :: rest => e.collapse :: collapseItems rest

def collapseEntries : List (String × Expression) → List (String × Expression)
  | [] => []
  | (key, e) :: rest => (key, e.collapse) :: collapseEntries rest

end

theorem collapseItems_eq (items : List Expression) :
    collapseItems items = items.map (·.collapse) := by
  induction items with
  | nil => rfl
  | cons e rest ih => rw [collapseItems, ih, List.map_cons]

theorem collapseEntries_eq (entries : List (String × Expression)) :
    collapseEntries entries = entries.map (changeValue collapse) := by
  induction entries with
  | nil => rfl
  | cons entry rest ih => rw [collapseEntries, ih, List.map_cons, changeValue]

end Expression

section
variable {skipUndefined : Bool}

/-- **An array of items is sent as a list of them**, or fails as the list does. -/
theorem encodeExpression_ofItems (items : List Expression) :
    encodeExpression skipUndefined (.ofItems items) =
      encodeExpression skipUndefined (.list items) := by
  rw [Expression.ofItems]
  split
  · next values literal =>
    rw [Expression.constants?_eq_some.1 literal, encodeExpression, encodeExpression, encodeConstant,
      encodeConstants_eq_mapM, encodeExpressions_eq_mapM, List.mapM_map]
    rfl
  · rfl

/-- **An array of items passes its check** as a list of them. -/
theorem checkExpression_ofItems (items : List Expression) :
    checkExpression skipUndefined (.ofItems items) =
      checkExpression skipUndefined (.list items) := by
  rw [Expression.ofItems]
  split
  · next values literal =>
    rw [Expression.constants?_eq_some.1 literal, checkExpression, checkExpression, checkConstant,
      checkItems_eq_forM, checkExpressions_eq_forM, List.forM_eq_forM, List.forM_eq_forM,
      List.forM_map]
    rfl
  · rfl

theorem isUndefined_collapse (e : Expression) : isUndefined e.collapse = isUndefined e := by
  cases e with
  | list items =>
    rw [Expression.collapse, Expression.ofItems]
    split <;> rfl
  | _ => rfl

theorem kept_collapse (entries : List (String × Expression)) :
    kept (fun e => skipUndefined && isUndefined e) (entries.map (changeValue Expression.collapse)) =
      (kept (fun e => skipUndefined && isUndefined e) entries).map
        (changeValue Expression.collapse) := by
  simp only [kept, List.filter_map, Function.comp_def, changeValue, isUndefined_collapse]

theorem encodeExpressions_collapse {items : List Expression}
    (same : ∀ e ∈ items,
      encodeExpression skipUndefined e.collapse = encodeExpression skipUndefined e) :
    encodeExpressions skipUndefined (Expression.collapseItems items) =
      encodeExpressions skipUndefined items := by
  rw [encodeExpressions_eq_mapM, encodeExpressions_eq_mapM, Expression.collapseItems_eq,
    List.mapM_map]
  exact mapM_congr same

theorem checkExpressions_collapse {items : List Expression}
    (same : ∀ e ∈ items, checkExpression skipUndefined e.collapse = .ok () ↔
      checkExpression skipUndefined e = .ok ()) :
    checkExpressions skipUndefined (Expression.collapseItems items) = .ok () ↔
      checkExpressions skipUndefined items = .ok () := by
  rw [checkExpressions_eq_ok, checkExpressions_eq_ok, Expression.collapseItems_eq,
    List.forall_mem_map]
  exact forall₂_congr same

/-- **An expression is sent** as it is with arrays in the place of its lists. -/
theorem encodeExpression_collapse (e : Expression) :
    encodeExpression skipUndefined e.collapse = encodeExpression skipUndefined e := by
  induction e using Expression.inductParts with
  | field f | constant c => rfl
  | call name items ih =>
    rw [Expression.collapse, encodeExpression, encodeExpression, encodeExpressions_collapse ih]
  | list items ih =>
    rw [Expression.collapse, encodeExpression_ofItems, encodeExpression, encodeExpression,
      encodeExpressions_collapse ih]
  | map entries ih =>
    have same : ∀ entry ∈ entries, encodeExpression skipUndefined entry.2 =
        encodeExpression skipUndefined entry.2.collapse :=
      fun entry hentry => (ih entry hentry).symm
    rw [Expression.collapse, encodeExpression, encodeExpression, encodeNamedFrom_eq,
      encodeNamedFrom_eq, Expression.collapseEntries_eq, kept_collapse, ← mapM_kept same]

/-- **An expression passes its check** when it does so with arrays in the place of its lists. Where
it fails, a literal that was inside a list is reported under the key of the array. -/
theorem checkExpression_collapse (e : Expression) :
    checkExpression skipUndefined e.collapse = .ok () ↔
      checkExpression skipUndefined e = .ok () := by
  induction e using Expression.inductParts with
  | field f | constant c => rfl
  | call name items ih =>
    rw [Expression.collapse, checkExpression, checkExpression, checkExpressions_collapse ih]
  | list items ih =>
    rw [Expression.collapse, checkExpression_ofItems, checkExpression, checkExpression,
      checkExpressions_collapse ih]
  | map entries ih =>
    rw [Expression.collapse, checkExpression, checkExpression, checkNamed_eq_ok, checkNamed_eq_ok,
      Expression.collapseEntries_eq, List.forall_mem_map]
    exact forall₂_congr ih

/-- Literals as named expressions. -/
def literals (entries : List (String × Constant)) : List (String × Expression) :=
  entries.map fun entry => (entry.1, .constant entry.2)

theorem encodeNamedFrom_literals (entries : List (String × Constant))
    (before : FieldMap Wire.Value) :
    encodeNamedFrom skipUndefined (literals entries) before =
      encodeEntries skipUndefined entries before := by
  induction entries generalizing before with
  | nil => rfl
  | cons entry rest ih =>
    rw [literals] at ih
    simp only [literals, List.map_cons, encodeNamedFrom, encodeEntries, isUndefined,
      encodeExpression, ih]

/-- **A map of literals is sent** as a literal with the entries that count. -/
theorem encodeExpression_literals (entries : List (String × Constant)) :
    encodeExpression skipUndefined (.mapLiteral (literals entries)) =
      encodeConstant skipUndefined (.map (OrderedMap.ofList entries)) := by
  rw [Expression.mapLiteral, literals, OrderedMap.ofList_map, ← literals, encodeExpression,
    encodeConstant, encodeNamedFrom_literals]

/-- An object is sent as a literal with the members that count. -/
theorem encodeConstant_object_ofList (members : List (String × Json)) :
    encodeConstant skipUndefined (.ofJson (.object (OrderedMap.ofList members))) =
      encodeConstant skipUndefined (.ofJson (.object members)) := by
  rw [encodeConstant_ofJson, encodeConstant_ofJson, Wire.Value.ofJson, Wire.Value.ofJson,
    Wire.ofMembers_eq, Wire.ofMembers_eq, ← OrderedMap.ofList_map, Wire.Value.ofFields,
    Wire.Value.ofFields, FieldMap.ofList_orderedOfList]

/-- **A parameter that is given as JSON is sent** as the literal of the same JSON. -/
theorem encodeParameter_ofJson (j : Json) :
    encodeParameter skipUndefined (.ofJson j) = encodeConstant skipUndefined (.ofJson j) := by
  cases j with
  | object members =>
    have parameter : Parameter.ofJson (.object members) =
        .expression (.mapLiteral (literals (Constant.ofMembers members))) := by
      rw [Parameter.ofJson, literals, Constant.ofMembers_eq, List.map_map]
      rfl
    rw [parameter, encodeParameter, encodeExpression_literals, ← encodeConstant_object_ofList,
      Constant.ofJson, Constant.ofMembers_eq, Constant.ofMembers_eq, OrderedMap.ofList_map]
  | _ => rfl

end

/-- **The form of a literal makes no difference.** An array is sent as a list of its items, with the
same faults, and passes its check as the list does, at any depth; a map with different keys is sent
as a map of expressions, and a JSON value as a parameter. -/
theorem literals_sent_alike (skipUndefined : Bool) :
    (∀ items : List Expression,
      encodeExpression skipUndefined (.ofItems items) =
        encodeExpression skipUndefined (.list items) ∧
      checkExpression skipUndefined (.ofItems items) =
        checkExpression skipUndefined (.list items)) ∧
    (∀ e : Expression,
      encodeExpression skipUndefined e.collapse = encodeExpression skipUndefined e ∧
      (checkExpression skipUndefined e.collapse = .ok () ↔
        checkExpression skipUndefined e = .ok ())) ∧
    (∀ entries : List (String × Constant), (entries.map (·.1)).Nodup →
      encodeConstant skipUndefined (.map entries) =
        encodeExpression skipUndefined (.mapLiteral (literals entries))) ∧
    ∀ j : Json, encodeParameter skipUndefined (.ofJson j) =
      encodeConstant skipUndefined (.ofJson j) := by
  refine ⟨fun items => ⟨encodeExpression_ofItems items, checkExpression_ofItems items⟩,
    fun e => ⟨encodeExpression_collapse e, checkExpression_collapse e⟩, fun entries nodup => ?_,
    encodeParameter_ofJson⟩
  rw [encodeExpression_literals, OrderedMap.ofList_of_nodup nodup]

theorem literals_without_undefined :
    encodeExpression true (.mapLiteral (literals [("size", .undefined), ("title", .string "")])) =
      .ok (.map [("title", .string "")]) :=
  ((literals_sent_alike true).2.2.1 _ (by decide)).symm

/-- Keys have to be different: an absent value replaces what a map of expressions has under its key,
and leaves alone what a literal has. -/
example :
    let entries : List (String × Constant) := [("size", .null), ("size", .undefined)]
    encodeExpression true (.mapLiteral (literals entries)) = .ok (.map []) ∧
      encodeConstant true (.map entries) = .ok (.map [("size", .null)]) :=
  ⟨rfl, rfl⟩

end DocumentPipeline
