import DocumentPipeline.Proofs.Contents
import DocumentPipeline.Proofs.FilterMeaning
import DocumentPipeline.Query

/-!
# References as literals

A literal may be a reference to a document, and it may stand anywhere in an expression. The database
of such a reference is not looked at, as it is for the references that a stage itself has:

* `Expression.references`, `Stage.references`: the documents that literals refer to;
* `Query.references`: those in the filters of a query;
* `references_toCondition`: the condition of a filter refers to no other document than the filter.
-/

namespace DocumentPipeline

mutual

/-- The documents that a literal refers to. A field transform may hold literals too. -/
def Constant.references : Constant → List DocumentReference
  | .reference d => [d]
  | .array items => referencesOfItems items
  | .map entries => referencesOfEntries entries
  | .transform t => t.references
  | _ => []

def Transform.references : Transform → List DocumentReference
  | .increment amount => amount.references
  | .arrayUnion items => referencesOfItems items
  | .arrayRemove items => referencesOfItems items
  | _ => []

def referencesOfItems : List Constant → List DocumentReference
  | [] => []
  | c :: rest => c.references ++ referencesOfItems rest

def referencesOfEntries : List (String × Constant) → List DocumentReference
  | [] => []
  | (_, c) :: rest => c.references ++ referencesOfEntries rest

end

mutual

/-- The documents that the literals in an expression refer to. -/
def Expression.references : Expression → List DocumentReference
  | .field _ => []
  | .constant c => c.references
  | .call _ arguments => referencesWithin arguments
  | .list items => referencesWithin items
  | .map entries => referencesUnder entries

def referencesWithin : List Expression → List DocumentReference
  | [] => []
  | e :: rest => e.references ++ referencesWithin rest

def referencesUnder : List (String × Expression) → List DocumentReference
  | [] => []
  | (_, e) :: rest => e.references ++ referencesUnder rest

end

theorem referencesWithin_eq (items : List Expression) :
    referencesWithin items = items.flatMap (·.references) := by
  induction items with
  | nil => rfl
  | cons e rest ih => rw [referencesWithin, ih, List.flatMap_cons]

/-- The documents that the literals of a stage refer to, those of its raw options included. -/
def Stage.references (s : Stage) : List DocumentReference := s.expressions.flatMap (·.references)

/-! ## Filters -/

mutual

/-- The documents that the literals of a filter refer to. -/
def Filter.references : Filter → List DocumentReference
  | .field _ _ value => value.references
  | .composite _ filters => referencesOfFilters filters

def referencesOfFilters : List Filter → List DocumentReference
  | [] => []
  | f :: rest => f.references ++ referencesOfFilters rest

end

theorem referencesOfFilters_eq (filters : List Filter) :
    referencesOfFilters filters = filters.flatMap (·.references) := by
  induction filters with
  | nil => rfl
  | cons f rest ih => rw [referencesOfFilters, ih, List.flatMap_cons]

/-- The documents that the literals of a query refer to. Only filters have literals. -/
def Query.references (q : Query) : List DocumentReference := q.filters.flatMap (·.references)

theorem references_fieldCondition {f : Field} {op : FilterOperator} {value : Constant}
    {c : Condition} (h : Filter.fieldCondition f op value = .ok c) {d : DocumentReference}
    (hd : d ∈ c.expression.references) : d ∈ value.references := by
  simp only [Filter.fieldCondition] at h
  split_ifs at h <;> cases h
  -- The tests for null and for NaN have no literal, and a comparison has the one of the filter.
  · cases hd
  · cases hd
  · cases hd
  · cases hd
  · have compared : (op.compare (.field f) (.constant value)).expression.references =
        value.references := by
      cases op <;> exact List.append_nil _
    simpa [Condition.all, Condition.call, Expression.isPresent, Expression.references,
      referencesWithin, compared] using hd

theorem references_join {junction : Junction} {conditions : List Condition} {c : Condition}
    (h : Filter.join junction conditions = .ok c) :
    c.expression.references = conditions.flatMap (·.expression.references) := by
  have joined (name : String) :
      (Expression.call name (conditions.map (·.expression))).references =
        conditions.flatMap (·.expression.references) := by
    rw [Expression.references, referencesWithin_eq, List.flatMap_map]
  match conditions, h with
  | [c'], h =>
    cases h
    simp
  | c₁ :: c₂ :: rest, h => cases junction <;> cases h <;> exact joined _

/-- **The condition of a filter** refers to no other document than the filter. -/
theorem references_toCondition {f : Filter} {d : DocumentReference} :
    ∀ {c : Condition}, f.toCondition = .ok c → d ∈ c.expression.references → d ∈ f.references := by
  induction f using Filter.inductParts with
  | field f op value => exact fun h hd => references_fieldCondition h hd
  | composite junction filters ih =>
    intro c h hd
    obtain ⟨conditions, hconditions, hjoin⟩ := bind_eq_ok.1 h
    rw [Filter.toConditions_eq_mapM] at hconditions
    rw [references_join hjoin, List.mem_flatMap] at hd
    obtain ⟨c, hc, hd⟩ := hd
    obtain ⟨f, hf, hfc⟩ := (mem_mapM hconditions).1 hc
    rw [Filter.references, referencesOfFilters_eq, List.mem_flatMap]
    exact ⟨f, hf, ih f hf hfc hd⟩

end DocumentPipeline
