import DocumentPipeline.Error
import DocumentPipeline.Proofs.Success

/-!
# What filters mean

Filters and conditions are given a meaning each, whatever it is that tests of single fields say:

* `Interpretation`: what tests of single fields say;
* `Interpretation.Holds`: what a condition means, read as it is sent: calls of functions by name;
* `Interpretation.Passes`: what a filter means;
* `Filter.within`, `Filter.Faulty`: the filters inside a filter, and those that stand for nothing;
* `toCondition_succeeds`: a filter has a condition just when nothing inside it is faulty;
* `ReadAlike.toCondition`: readings of conditions and of filters agree if they do on comparisons;
* `holds_iff_passes`: the condition of a filter means what the filter means.
-/

namespace DocumentPipeline

/-- What tests of single fields say. Nothing is assumed of them. -/
structure Interpretation where
  present : Field → Prop
  null : Field → Prop
  notNull : Field → Prop
  nan : Field → Prop
  notNaN : Field → Prop
  /-- What comparing a field with a literal says by itself. -/
  compares : FilterOperator → Field → Constant → Prop

/-! ## Conditions -/

/-- The comparison that a function makes. -/
def FilterOperator.ofFunction? : String → Option FilterOperator
  | "equal" => some .equal
  | "not_equal" => some .notEqual
  | "less_than" => some .lessThan
  | "less_than_or_equal" => some .lessThanOrEqual
  | "greater_than" => some .greaterThan
  | "greater_than_or_equal" => some .greaterThanOrEqual
  | "array_contains" => some .arrayContains
  | "array_contains_any" => some .arrayContainsAny
  | "equal_any" => some .isIn
  | "not_equal_any" => some .notIn
  | _ => none

namespace Interpretation
variable (I : Interpretation)

/-- What a test of a single field says. -/
def Tests (name : String) : List Expression → Prop
  | [.field f] =>
    match name with
    | "exists" => I.present f
    | "is_null" => I.null f
    | "is_not_null" => I.notNull f
    | "is_nan" => I.nan f
    | "is_not_nan" => I.notNaN f
    | _ => False
  | [.field f, .constant value] =>
    ∃ op, FilterOperator.ofFunction? name = some op ∧ I.compares op f value
  | _ => False

mutual

/-- What a condition means. -/
def Holds : Expression → Prop
  | .call name arguments =>
    if name = "and" then AllHold arguments
    else if name = "or" then AnyHolds arguments
    else I.Tests name arguments
  | _ => False

def AllHold : List Expression → Prop
  | [] => True
  | e :: rest => Holds e ∧ AllHold rest

def AnyHolds : List Expression → Prop
  | [] => False
  | e :: rest => Holds e ∨ AnyHolds rest

end

/-! ## Filters -/

/-- What a comparison of a filter means. Equality with null and NaN is a test of its own; any other
comparison asks for the field first. -/
def Meets (f : Field) : FilterOperator → Constant → Prop
  | .equal, .null => I.null f
  | .notEqual, .null => I.notNull f
  | .equal, .double x =>
    if x.isNaN then I.nan f else I.present f ∧ I.compares .equal f (.double x)
  | .notEqual, .double x =>
    if x.isNaN then I.notNaN f else I.present f ∧ I.compares .notEqual f (.double x)
  | op, value => I.present f ∧ I.compares op f value

mutual

/-- What a filter means. -/
def Passes : Filter → Prop
  | .field f op value => I.Meets f op value
  | .composite .all filters => PassesAll filters
  | .composite .any filters => PassesAny filters

def PassesAll : List Filter → Prop
  | [] => True
  | f :: rest => Passes f ∧ PassesAll rest

def PassesAny : List Filter → Prop
  | [] => False
  | f :: rest => Passes f ∨ PassesAny rest

end

end Interpretation

mutual

/-- A filter and all filters inside it, at any depth. -/
def Filter.within : Filter → List Filter
  | .field f op value => [.field f op value]
  | .composite junction filters => .composite junction filters :: filtersWithin filters

def filtersWithin : List Filter → List Filter
  | [] => []
  | f :: rest => f.within ++ filtersWithin rest

end

/-- A filter that stands for nothing by itself: a composite of no filters, or a comparison with
several values that are not given in an array. -/
def Filter.Faulty : Filter → Prop
  | .composite _ filters => filters = []
  | .field _ op value =>
    (op = .arrayContainsAny ∨ op = .isIn ∨ op = .notIn) ∧ ∀ items, value ≠ .array items

theorem filtersWithin_eq (filters : List Filter) :
    filtersWithin filters = filters.flatMap (·.within) := by
  induction filters with
  | nil => rfl
  | cons f rest ih => rw [filtersWithin, ih, List.flatMap_cons]

/-- What holds of a filter when it holds of the filters in it holds of every filter. -/
theorem Filter.inductParts {P : Filter → Prop} (field : ∀ f op value, P (.field f op value))
    (composite : ∀ junction filters, (∀ f ∈ filters, P f) → P (.composite junction filters)) :
    ∀ f, P f := by
  refine @Filter.rec P (fun filters => ∀ f ∈ filters, P f) field composite ?_ ?_
  · simp
  · exact fun f rest hf hrest => List.forall_mem_cons.2 ⟨hf, hrest⟩

/-! ## Filters without a condition -/

theorem Constant.isArray_iff {c : Constant} : c.isArray = true ↔ ∃ items, c = .array items := by
  cases c <;> simp [isArray]

theorem Constant.isNull_iff {c : Constant} : c.isNull = true ↔ c = .null := by
  cases c <;> simp [isNull]

theorem Constant.isNaN_iff {c : Constant} :
    c.isNaN = true ↔ ∃ x : Double, c = .double x ∧ x.isNaN = true := by
  cases c <;> simp [isNaN]

theorem FilterOperator.takesArray_iff {op : FilterOperator} :
    op.takesArray = true ↔ op = .arrayContainsAny ∨ op = .isIn ∨ op = .notIn := by
  cases op <;> simp [takesArray]

namespace Filter

theorem toConditions_eq_mapM (filters : List Filter) :
    toConditions filters = filters.mapM toCondition := by
  induction filters with
  | nil => rfl
  | cons f rest ih => rw [toConditions, ih, List.mapM_cons]

theorem fieldCondition_succeeds {f : Field} {op : FilterOperator} {value : Constant} :
    (∃ c, fieldCondition f op value = .ok c) ↔ ¬Faulty (.field f op value) := by
  have faulty : Faulty (.field f op value) ↔ op.takesArray = true ∧ ¬value.isArray = true := by
    simp only [Faulty, FilterOperator.takesArray_iff, Constant.isArray_iff, not_exists]
  rw [faulty, fieldCondition]
  by_cases refused : op.takesArray = true ∧ ¬value.isArray = true
  · have notEqual : op ≠ .equal ∧ op ≠ .notEqual := by
      constructor <;> rintro rfl <;> exact nomatch refused.1
    simp [notEqual, refused]
  · simp only [refused, if_false, not_false_iff, iff_true]
    split_ifs <;> exact ⟨_, rfl⟩

theorem join_succeeds {junction : Junction} {conditions : List Condition} :
    (∃ c, join junction conditions = .ok c) ↔ conditions ≠ [] := by
  match conditions with
  | [] => simp [join]
  | [c] => simp [join]
  | c₁ :: c₂ :: rest => cases junction <;> simp [join]

/-- **A filter has a condition** just when nothing inside it is faulty. -/
theorem toCondition_succeeds {f : Filter} :
    (∃ c, f.toCondition = .ok c) ↔ ∀ g ∈ f.within, ¬g.Faulty := by
  induction f using inductParts with
  | field f op value =>
    rw [toCondition, within, List.forall_mem_singleton, fieldCondition_succeeds]
  | composite junction filters ih =>
    have parts : (∃ conditions, toConditions filters = .ok conditions) ↔
        ∀ g ∈ filtersWithin filters, ¬g.Faulty := by
      rw [toConditions_eq_mapM, mapM_succeeds, filtersWithin_eq, List.forall_mem_flatMap]
      exact forall₂_congr ih
    have given {conditions : List Condition} (h : toConditions filters = .ok conditions) :
        conditions = [] ↔ filters = [] := by
      rw [toConditions_eq_mapM, mapM_eq_ok] at h
      rw [← List.length_eq_zero_iff, ← h.length_eq, List.length_eq_zero_iff]
    rw [toCondition, within, List.forall_mem_cons, bind_succeeds, ← parts]
    simp only [join_succeeds]
    constructor
    · rintro ⟨conditions, h, some⟩
      exact ⟨mt (given h).2 some, conditions, h⟩
    · rintro ⟨some, conditions, h⟩
      exact ⟨conditions, h, mt (given h).1 some⟩

end Filter

/-! ## Conditions read as their filters -/

/-- A reading of conditions and one of filters that take comparisons alike. Both take what is joined
for all of its parts, or for any of them. -/
structure ReadAlike (holds : Condition → Prop) (passes : Filter → Prop) : Prop where
  all : ∀ conditions, holds (.all conditions) ↔ ∀ c ∈ conditions, holds c
  any : ∀ conditions, holds (.any conditions) ↔ ∃ c ∈ conditions, holds c
  passesAll : ∀ filters, passes (.composite .all filters) ↔ ∀ f ∈ filters, passes f
  passesAny : ∀ filters, passes (.composite .any filters) ↔ ∃ f ∈ filters, passes f
  field : ∀ {f op value c}, Filter.fieldCondition f op value = .ok c →
    (holds c ↔ passes (.field f op value))

namespace ReadAlike
variable {holds : Condition → Prop} {passes : Filter → Prop}

/-- Joined conditions are read as their junction says, a single one included. -/
theorem join (alike : ReadAlike holds passes) {junction : Junction} {conditions : List Condition}
    {c : Condition} (h : Filter.join junction conditions = .ok c) :
    holds c ↔
      match junction with
      | .all => ∀ c ∈ conditions, holds c
      | .any => ∃ c ∈ conditions, holds c := by
  match conditions, h with
  | [c'], h =>
    cases h
    cases junction <;> simp
  | c₁ :: c₂ :: rest, h =>
    cases junction with
    | all =>
      cases h
      exact alike.all _
    | any =>
      cases h
      exact alike.any _

/-- **A condition is read as its filter is,** whatever the readings of single comparisons. -/
theorem toCondition (alike : ReadAlike holds passes) {f : Filter} :
    ∀ {c : Condition}, f.toCondition = .ok c → (holds c ↔ passes f) := by
  induction f using Filter.inductParts with
  | field f op value =>
    intro c h
    exact alike.field h
  | composite junction filters ih =>
    intro c h
    obtain ⟨conditions, hconditions, hjoin⟩ := bind_eq_ok.1 h
    rw [Filter.toConditions_eq_mapM] at hconditions
    have each := mapM_succeeds.1 ⟨conditions, hconditions⟩
    rw [alike.join hjoin]
    cases junction with
    | all =>
      rw [alike.passesAll]
      constructor
      · intro all f hf
        obtain ⟨c, hc⟩ := each f hf
        exact (ih f hf hc).1 (all c ((mem_mapM hconditions).2 ⟨f, hf, hc⟩))
      · intro all c hc
        obtain ⟨f, hf, hfc⟩ := (mem_mapM hconditions).1 hc
        exact (ih f hf hfc).2 (all f hf)
    | any =>
      rw [alike.passesAny]
      constructor
      · rintro ⟨c, hc, holds⟩
        obtain ⟨f, hf, hfc⟩ := (mem_mapM hconditions).1 hc
        exact ⟨f, hf, (ih f hf hfc).1 holds⟩
      · rintro ⟨f, hf, passes⟩
        obtain ⟨c, hc⟩ := each f hf
        exact ⟨c, (mem_mapM hconditions).2 ⟨f, hf, hc⟩, (ih f hf hc).2 passes⟩

end ReadAlike

/-! ## What the condition of a filter means -/

namespace Interpretation
variable (I : Interpretation)

theorem allHold_iff {expressions : List Expression} :
    I.AllHold expressions ↔ ∀ e ∈ expressions, I.Holds e := by
  induction expressions with
  | nil => simp [AllHold]
  | cons e rest ih => rw [AllHold, ih, List.forall_mem_cons]

theorem anyHolds_iff {expressions : List Expression} :
    I.AnyHolds expressions ↔ ∃ e ∈ expressions, I.Holds e := by
  induction expressions with
  | nil => simp [AnyHolds]
  | cons e rest ih => rw [AnyHolds, ih, List.exists_mem_cons_iff]

theorem passesAll_iff {filters : List Filter} :
    I.PassesAll filters ↔ ∀ f ∈ filters, I.Passes f := by
  induction filters with
  | nil => simp [PassesAll]
  | cons f rest ih => rw [PassesAll, ih, List.forall_mem_cons]

theorem passesAny_iff {filters : List Filter} :
    I.PassesAny filters ↔ ∃ f ∈ filters, I.Passes f := by
  induction filters with
  | nil => simp [PassesAny]
  | cons f rest ih => rw [PassesAny, ih, List.exists_mem_cons_iff]

theorem holds_all {conditions : List Condition} :
    I.Holds (Condition.all conditions).expression ↔ ∀ c ∈ conditions, I.Holds c.expression := by
  simp [Condition.all, Condition.call, Holds, allHold_iff]

theorem holds_any {conditions : List Condition} :
    I.Holds (Condition.any conditions).expression ↔ ∃ c ∈ conditions, I.Holds c.expression := by
  simp [Condition.any, Condition.call, Holds, anyHolds_iff]

/-- The condition of a comparison makes just that comparison. -/
theorem holds_compare (op : FilterOperator) (f : Field) (value : Constant) :
    I.Holds (op.compare (.field f) (.constant value)).expression ↔ I.compares op f value := by
  cases op <;>
    simp [FilterOperator.compare, Expression.equal, Expression.notEqual, Expression.lessThan,
      Expression.lessThanOrEqual, Expression.greaterThan, Expression.greaterThanOrEqual,
      Expression.arrayContains, Expression.arrayContainsAny, Expression.equalAny,
      Expression.notEqualAny, Condition.call, Holds, Tests, FilterOperator.ofFunction?]

/-- Apart from equality with null and NaN, a comparison asks for the field first. -/
theorem meets_iff {f : Field} {op : FilterOperator} {value : Constant}
    (equalNull : ¬(op = .equal ∧ value.isNull)) (notEqualNull : ¬(op = .notEqual ∧ value.isNull))
    (equalNaN : ¬(op = .equal ∧ value.isNaN)) (notEqualNaN : ¬(op = .notEqual ∧ value.isNaN)) :
    I.Meets f op value ↔ I.present f ∧ I.compares op f value := by
  unfold Meets
  split
  · exact absurd ⟨rfl, rfl⟩ equalNull
  · exact absurd ⟨rfl, rfl⟩ notEqualNull
  · next x =>
    have number : ¬x.isNaN = true := fun nan => equalNaN ⟨rfl, nan⟩
    rw [if_neg number]
  · next x =>
    have number : ¬x.isNaN = true := fun nan => notEqualNaN ⟨rfl, nan⟩
    rw [if_neg number]
  · exact Iff.rfl

theorem holds_fieldCondition {f : Field} {op : FilterOperator} {value : Constant} {c : Condition}
    (h : Filter.fieldCondition f op value = .ok c) : I.Holds c.expression ↔ I.Meets f op value := by
  simp only [Filter.fieldCondition] at h
  split_ifs at h with equalNull notEqualNull equalNaN notEqualNaN refused <;> cases h
  · obtain ⟨rfl, null⟩ := equalNull
    rw [Constant.isNull_iff.1 null]
    rfl
  · obtain ⟨rfl, null⟩ := notEqualNull
    rw [Constant.isNull_iff.1 null]
    rfl
  · obtain ⟨rfl, nan⟩ := equalNaN
    obtain ⟨x, rfl, isNaN⟩ := Constant.isNaN_iff.1 nan
    rw [Meets, if_pos isNaN]
    rfl
  · obtain ⟨rfl, nan⟩ := notEqualNaN
    obtain ⟨x, rfl, isNaN⟩ := Constant.isNaN_iff.1 nan
    rw [Meets, if_pos isNaN]
    rfl
  · rw [I.meets_iff equalNull notEqualNull equalNaN notEqualNaN, holds_all]
    simp only [List.forall_mem_cons, List.not_mem_nil, false_imp_iff, implies_true, and_true,
      holds_compare]
    rfl

theorem readAlike : ReadAlike (I.Holds ·.expression) I.Passes where
  all _ := I.holds_all
  any _ := I.holds_any
  passesAll filters := by rw [Passes, passesAll_iff]
  passesAny filters := by rw [Passes, passesAny_iff]
  field h := by
    rw [Passes]
    exact I.holds_fieldCondition h

/-- **The condition of a filter means what the filter means.** -/
theorem holds_iff_passes {f : Filter} {c : Condition} (h : f.toCondition = .ok c) :
    I.Holds c.expression ↔ I.Passes f := I.readAlike.toCondition h

end Interpretation

/-- **What a filter is taken for.** A filter stands for no condition, and for that reason is refused
as an argument, just when there is a composite of no filters in it or a comparison with several
values that are not given in an array. Otherwise its condition means what the filter means, whatever
tests of single fields say. -/
theorem toCondition_keeps_meaning (f : Filter) :
    ((∃ e, f.toCondition.mapError PipelineError.ofFilter = .error e) ↔ ∃ g ∈ f.within, g.Faulty) ∧
    (∀ e, f.toCondition.mapError PipelineError.ofFilter = .error e →
      ∃ fault, e = .invalidArgument (.filter fault)) ∧
    ∀ c, f.toCondition = .ok c →
      ∀ I : Interpretation, I.Holds c.expression ↔ I.Passes f := by
  refine ⟨?_, ?_, fun c h I => I.holds_iff_passes h⟩
  · rw [fails_iff, mapError_succeeds, Filter.toCondition_succeeds]
    simp only [not_forall, not_not, exists_prop]
  · intro e h
    obtain ⟨fault, -, rfl⟩ := mapError_eq_error.1 h
    exact ⟨fault, rfl⟩

end DocumentPipeline
