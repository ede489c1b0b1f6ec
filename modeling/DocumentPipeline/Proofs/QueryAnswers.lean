import DocumentPipeline.Proofs.Engine
import DocumentPipeline.Proofs.FilterMeaning

/-!
# The answer to a query

What a query asks for, said without stages, and that its pipeline gives just that:

* `Engine.passes`: what it takes for a row to pass a filter;
* `Engine.answer`: the rows that a query asks for;
* `holds_toCondition`: the condition of a filter holds for the rows that pass it;
* `toPipeline_answers`: the pipeline of a query gives its answer.
-/

namespace DocumentPipeline

theorem Query.rowOrder_named (q : Query) : ⟨"__name__"⟩ ∈ q.rowOrder.map (·.1) := by
  rw [rowOrder]
  split
  · next named => exact named
  · split <;> simp

/-- The function that makes a comparison. -/
def FilterOperator.function : FilterOperator → String
  | .equal => "equal"
  | .notEqual => "not_equal"
  | .lessThan => "less_than"
  | .lessThanOrEqual => "less_than_or_equal"
  | .greaterThan => "greater_than"
  | .greaterThanOrEqual => "greater_than_or_equal"
  | .arrayContains => "array_contains"
  | .arrayContainsAny => "array_contains_any"
  | .isIn => "equal_any"
  | .notIn => "not_equal_any"

namespace Engine
variable {Row : Type} (E : Engine Row)

/-- Whether a row has a field for which a comparison with a literal holds. -/
def compares (f : Field) (function : String) (value : Constant) (r : Row) : Bool :=
  E.has f r && E.holds (.call function [.field f, .constant value]) r

/-- Whether a row passes a comparison. Equality with null and with NaN are questions of their own; a
row without the field passes no other comparison. -/
def meets (f : Field) (op : FilterOperator) (value : Constant) (r : Row) : Bool :=
  match op, value with
  | .equal, .null => E.holds (.call "is_null" [.field f]) r
  | .notEqual, .null => E.holds (.call "is_not_null" [.field f]) r
  | .equal, .double x =>
    if x.isNaN then E.holds (.call "is_nan" [.field f]) r
    else E.compares f "equal" (.double x) r
  | .notEqual, .double x =>
    if x.isNaN then E.holds (.call "is_not_nan" [.field f]) r
    else E.compares f "not_equal" (.double x) r
  | op, value => E.compares f op.function value r

mutual

/-- Whether a row passes a filter. -/
def passes (r : Row) : Filter → Bool
  | .field f op value => E.meets f op value r
  | .composite .all filters => passesAll r filters
  | .composite .any filters => passesAny r filters

def passesAll (r : Row) : List Filter → Bool
  | [] => true
  | f :: rest => passes r f && passesAll r rest

def passesAny (r : Row) : List Filter → Bool
  | [] => false
  | f :: rest => passes r f || passesAny r rest

end

/-- The rows that a query is about: those of a collection, or of a group of collections. -/
def sourceRows (q : Query) : List Row :=
  match q.source with
  | .collection c => E.rows c.database (.collection c none)
  | .group db id => E.rows db (.collectionGroup id none)

/-- The rows that pass every filter and have every field of the order. -/
def selected (q : Query) : List Row :=
  (E.sourceRows q).filter fun r => q.filters.all (E.passes r) && q.order.all fun k => E.has k.1 r

/-- The rows between an offset and a limit. Both count from the end if the last rows are asked
for. -/
def window (q : Query) (rows : List Row) : List Row :=
  let skipped := (q.offset.map (·.toNat)).getD 0
  match q.limit, q.limitToLast with
  | none, false => rows.drop skipped
  | some n, false => (rows.drop skipped).take n.toNat
  | none, true => rows.rdrop skipped
  | some n, true => (rows.rdrop skipped).rtake n.toNat

/-- The rows with the fields that are asked for, each once. -/
def projected (q : Query) (rows : List Row) : List Row :=
  match q.projection with
  | none => rows
  | some fields =>
    rows.map (E.project ((fields.map (·.path)).eraseDups.map fun path => (path, .field ⟨path⟩)))

/-- The rows that a query asks for. They keep the order of the source if nothing asks for one. -/
def answer (q : Query) : List Row :=
  E.projected q <|
    if q.order = [] ∧ q.offset = none ∧ q.limit = none then E.selected q
    else window q (E.inOrder q.rowOrder (E.selected q))

/-! ## Filters -/

section
variable {E} (r : Row)

/-- Apart from equality with null and NaN, a comparison is one of a field that is there. -/
theorem meets_eq_compares {f : Field} {op : FilterOperator} {value : Constant}
    (equalNull : ¬(op = .equal ∧ value.isNull)) (notEqualNull : ¬(op = .notEqual ∧ value.isNull))
    (equalNaN : ¬(op = .equal ∧ value.isNaN)) (notEqualNaN : ¬(op = .notEqual ∧ value.isNaN)) :
    E.meets f op value r = E.compares f op.function value r := by
  unfold meets
  split
  · exact absurd ⟨rfl, rfl⟩ equalNull
  · exact absurd ⟨rfl, rfl⟩ notEqualNull
  · next x =>
    have number : ¬x.isNaN = true := fun nan => equalNaN ⟨rfl, nan⟩
    rw [if_neg number]
    rfl
  · next x =>
    have number : ¬x.isNaN = true := fun nan => notEqualNaN ⟨rfl, nan⟩
    rw [if_neg number]
    rfl
  · rfl

theorem holds_compare (f : Field) (op : FilterOperator) (value : Constant) :
    E.holds (op.compare (.field f) (.constant value)).expression r =
      E.holds (.call op.function [.field f, .constant value]) r := by
  cases op <;> rfl

theorem holds_fieldCondition {f : Field} {op : FilterOperator} {value : Constant} {c : Condition}
    (h : Filter.fieldCondition f op value = .ok c) :
    E.holds c.expression r = E.meets f op value r := by
  simp only [Filter.fieldCondition] at h
  split_ifs at h with equalNull notEqualNull equalNaN notEqualNaN refused <;> cases h
  · obtain ⟨rfl, null⟩ := equalNull
    rw [Constant.isNull_iff.1 null]
    rfl
  · obtain ⟨rfl, null⟩ := notEqualNull
    rw [Constant.isNull_iff.1 null]
    rfl
  · obtain ⟨rfl, nan⟩ := equalNaN
    obtain ⟨x, rfl, isNaN⟩ := Constant.isNaN_iff.1 nan
    rw [meets, if_pos isNaN]
    rfl
  · obtain ⟨rfl, nan⟩ := notEqualNaN
    obtain ⟨x, rfl, isNaN⟩ := Constant.isNaN_iff.1 nan
    rw [meets, if_pos isNaN]
    rfl
  · have guarded : E.holds (Expression.field f).isPresent.expression r = E.has f r :=
      E.holds_exists f r
    rw [meets_eq_compares r equalNull notEqualNull equalNaN notEqualNaN, Condition.all,
      Condition.call, E.holds_and]
    simp [guarded, holds_compare, compares]

theorem passesAll_eq (filters : List Filter) :
    E.passesAll r filters = filters.all (E.passes r) := by
  induction filters with
  | nil => rfl
  | cons f rest ih => rw [passesAll, ih, List.all_cons]

theorem passesAny_eq (filters : List Filter) :
    E.passesAny r filters = filters.any (E.passes r) := by
  induction filters with
  | nil => rfl
  | cons f rest ih => rw [passesAny, ih, List.any_cons]

theorem readAlike : ReadAlike (E.holds ·.expression r = true) (E.passes r · = true) where
  all conditions := by
    rw [Condition.all, Condition.call, E.holds_and, List.all_map, List.all_eq_true]
    rfl
  any conditions := by
    rw [Condition.any, Condition.call, E.holds_or, List.any_map, List.any_eq_true]
    rfl
  passesAll filters := by rw [passes, passesAll_eq, List.all_eq_true]
  passesAny filters := by rw [passes, passesAny_eq, List.any_eq_true]
  field h := by rw [passes, holds_fieldCondition r h]

/-- **The condition of a filter holds for the rows that pass the filter.** -/
theorem holds_toCondition {f : Filter} {c : Condition} (h : f.toCondition = .ok c) :
    E.holds c.expression r = E.passes r f := Bool.eq_iff_iff.2 ((readAlike r).toCondition h)

theorem holds_filters {filters : List Filter} {conditions : List Condition}
    (h : filters.mapM Filter.toCondition = .ok conditions) :
    conditions.all (E.holds ·.expression r) = filters.all (E.passes r) := by
  rw [mapM_eq_ok] at h
  induction h with
  | nil => rfl
  | cons hc _ ih => rw [List.all_cons, List.all_cons, holds_toCondition r hc, ih]

end

/-! ## Stages -/

/-- What stages without raw options do with rows. -/
def through (bodies : List StageBody) (rows : List Row) : List Row :=
  bodies.foldl (fun rows body => E.step rows ⟨body, []⟩) rows

theorem through_append (bodies more : List StageBody) (rows : List Row) :
    E.through (bodies ++ more) rows = E.through more (E.through bodies rows) :=
  List.foldl_append

theorem through_filters (conditions : List Condition) (rows : List Row) :
    E.through (conditions.map .filter) rows =
      rows.filter fun r => conditions.all (E.holds ·.expression r) := by
  induction conditions generalizing rows with
  | nil => simp [through]
  | cons c rest ih =>
    calc E.through ((c :: rest).map .filter) rows
      _ = E.through (rest.map .filter) (rows.filter (E.holds c.expression)) := rfl
      _ = (rows.filter (E.holds c.expression)).filter fun r =>
            rest.all (E.holds ·.expression r) := ih _
      _ = rows.filter fun r => (c :: rest).all (E.holds ·.expression r) := by
        rw [List.filter_filter]
        simp [Bool.and_comm]

theorem through_guard (q : Query) (rows : List Row) :
    E.through q.guardSlot rows = rows.filter fun r => q.order.all fun k => E.has k.1 r := by
  have holds (r : Row) :
      (q.order.map fun k => Expression.call "exists" [.field k.1]).all (E.holds · r) =
        q.order.all fun k => E.has k.1 r := by
    simp [List.all_map, Function.comp_def, E.holds_exists]
  simp only [← holds, Query.guardSlot]
  generalize q.order.map (fun k => Expression.call "exists" [.field k.1]) = guards
  obtain _ | ⟨guard, _ | ⟨guard', rest⟩⟩ := guards
  · simp [through]
  · simp [through, step]
  · exact List.filter_congr fun r _ => E.holds_and _ r

/-- A number of rows counts for what it is, however a stage holds it. -/
theorem toNat_toInt_ofNat (n : UInt32) : (Int64.ofNat n.toNat).toInt.toNat = n.toNat := by
  have small : n.toNat < 0x100000000 := n.toNat_lt
  rw [Int64.toInt_ofNat_of_lt (by omega), Int.toNat_natCast]

theorem through_offset (q : Query) (rows : List Row) :
    E.through q.offsetSlot rows = rows.drop ((q.offset.map (·.toNat)).getD 0) := by
  rw [Query.offsetSlot]
  cases q.offset with
  | none => rfl
  | some n => exact congrArg (rows.drop ·) (toNat_toInt_ofNat n)

theorem through_limit_none {q : Query} (whole : q.limit = none) (rows : List Row) :
    E.through q.limitSlot rows = rows := by
  rw [Query.limitSlot, whole]
  rfl

theorem through_limit_some {q : Query} {n : UInt32} (given : q.limit = some n) (rows : List Row) :
    E.through q.limitSlot rows = rows.take n.toNat := by
  rw [Query.limitSlot, given]
  exact congrArg (rows.take ·) (toNat_toInt_ofNat n)

theorem through_projection (q : Query) (rows : List Row) :
    E.through q.projectionSlot rows = E.projected q rows := by
  rw [Query.projectionSlot, projected]
  cases q.projection <;> rfl

theorem through_sort (keys : List SortKey) (rows : List Row) :
    E.through [.sort keys] rows = E.sortBy keys rows := rfl

theorem drop_reverse (skipped : Nat) (rows : List Row) :
    rows.reverse.drop skipped = (rows.rdrop skipped).reverse := by
  rw [List.rdrop_eq_reverse_drop_reverse, List.reverse_reverse]

theorem take_reverse (count : Nat) (rows : List Row) :
    rows.reverse.take count = (rows.rtake count).reverse := by
  rw [List.rtake_eq_reverse_take_reverse, List.reverse_reverse]

/-- **Sorting, offset and limit keep the rows between them**, those at the end of the order too. -/
theorem through_window {q : Query} {rows : List Row} (separates : E.Separates q.rowOrder rows)
    (ordered : q.limitToLast = true → q.order ≠ []) :
    E.through q.windowSlots rows =
      if q.order = [] ∧ q.offset = none ∧ q.limit = none then rows
      else window q (E.inOrder q.rowOrder rows) := by
  have asked : (q.order ≠ [] ∨ q.offset ≠ none ∨ q.limit ≠ none) ↔
      ¬(q.order = [] ∧ q.offset = none ∧ q.limit = none) := by tauto
  have skipped : ((E.inOrder q.rowOrder rows).rdrop ((q.offset.map (·.toNat)).getD 0)).Sublist
      (E.inOrder q.rowOrder rows) := List.take_sublist _ _
  rw [Query.windowSlots, window]
  cases toLast : q.limitToLast with
  | true =>
    rw [if_pos rfl, if_neg (asked.1 (.inl (ordered toLast)))]
    simp only [through_append, through_sort, through_offset, sortBy_backwardKeys separates,
      sortBy_forwardKeys, drop_reverse]
    cases limit : q.limit with
    | none =>
      rw [through_limit_none E limit]
      exact inOrder_cut separates skipped
    | some n =>
      rw [through_limit_some E limit, take_reverse]
      exact inOrder_cut separates ((List.drop_sublist _ _).trans skipped)
  | false =>
    simp only [Bool.false_eq_true, if_false, asked, through_append, through_offset]
    by_cases nothing : q.order = [] ∧ q.offset = none ∧ q.limit = none
    · rw [if_pos nothing, if_neg (not_not.2 nothing), through_limit_none E nothing.2.2, nothing.2.1]
      rfl
    · rw [if_neg nothing, if_pos nothing, through_sort, sortBy_forwardKeys]
      cases limit : q.limit with
      | none => rw [through_limit_none E limit]
      | some n => rw [through_limit_some E limit]

theorem run_appendAll (p : Pipeline) (bodies : List StageBody) :
    E.run (p.appendAll bodies) = E.through bodies (E.run p) := by
  induction bodies generalizing p with
  | nil => rfl
  | cons body rest ih =>
    have first : E.run (p.append body []) = E.step (E.run p) ⟨body, []⟩ := List.foldl_append
    calc E.run (p.appendAll (body :: rest))
      _ = E.through rest (E.run (p.append body [])) := ih _
      _ = E.through rest (E.step (E.run p) ⟨body, []⟩) := by rw [first]

theorem rows_sourceBody (q : Query) : E.rows q.database q.sourceBody = E.sourceRows q := by
  rw [Query.database, Query.sourceBody, sourceRows]
  cases q.source <;> rfl

/-- **The pipeline of a query gives the rows that the query asks for**, in the order it asks for. -/
theorem toPipeline_answers {q : Query} {p : Pipeline} (h : q.toPipeline = .ok p)
    (distinct : ((E.sourceRows q).map E.name).Nodup) : E.run p = E.answer q := by
  obtain ⟨-, ordered, conditions, hconditions, rfl⟩ := q.toPipeline_eq_ok.1 h
  have filtered (rows : List Row) :
      ((rows.filter fun r => conditions.all (E.holds ·.expression r)).filter fun r =>
        q.order.all fun k => E.has k.1 r) =
      rows.filter fun r => q.filters.all (E.passes r) && q.order.all fun k => E.has k.1 r := by
    rw [List.filter_filter]
    refine List.filter_congr fun r _ => ?_
    rw [holds_filters r hconditions, Bool.and_comm]
  have separates : E.Separates q.rowOrder (E.selected q) := by
    intro a ha b hb hab hba
    have same : E.name a = E.name b := orderLe_antisymm q.rowOrder_named hab hba
    exact List.inj_on_of_nodup_map distinct (List.mem_of_mem_filter ha) (List.mem_of_mem_filter hb)
      same
  have source : E.run (.start q.database q.sourceBody []) = E.sourceRows q := E.rows_sourceBody q
  rw [run_appendAll, source, Query.laterSlots, through_append, through_append, through_append,
    through_filters, through_guard, filtered, through_projection]
  exact congrArg (E.projected q) (E.through_window separates ordered)

end Engine

/-! ## Books -/

/-- A document of a small collection. Not every book has stars. -/
structure Book where
  name : String
  stars : Option Int

namespace Book

def has (b : Book) (f : Field) : Bool :=
  f = ⟨"__name__"⟩ || f.path = "stars" && b.stars.isSome

mutual

/-- Whether a condition holds for a book. -/
def satisfies (b : Book) : Expression → Bool
  | .call name arguments =>
    if name = "and" then satisfiesAll b arguments
    else if name = "or" then satisfiesAny b arguments
    else
      match name, arguments with
      | "exists", [.field f] => b.has f
      | "greater_than", [.field f, .constant (.integer n)] =>
        f.path = "stars" && b.stars.any (n.toInt < ·)
      | _, _ => false
  | _ => false

def satisfiesAll (b : Book) : List Expression → Bool
  | [] => true
  | e :: rest => satisfies b e && satisfiesAll b rest

def satisfiesAny (b : Book) : List Expression → Bool
  | [] => false
  | e :: rest => satisfies b e || satisfiesAny b rest

end

/-- Books go by their names or by their stars. -/
def le (e : Expression) (a b : Book) : Bool :=
  match e with
  | .field f => if f = ⟨"__name__"⟩ then a.name ≤ b.name else a.stars.getD 0 ≤ b.stars.getD 0
  | _ => true

theorem satisfiesAll_eq (b : Book) (conditions : List Expression) :
    b.satisfiesAll conditions = conditions.all b.satisfies := by
  induction conditions with
  | nil => rfl
  | cons c rest ih => rw [satisfiesAll, ih, List.all_cons]

theorem satisfiesAny_eq (b : Book) (conditions : List Expression) :
    b.satisfiesAny conditions = conditions.any b.satisfies := by
  induction conditions with
  | nil => rfl
  | cons c rest ih => rw [satisfiesAny, ih, List.any_cons]

end Book

/-- An engine with one collection of books. -/
def bookshelf : Engine Book where
  name := Book.name
  rows _ _ := [⟨"b", some 3⟩, ⟨"a", some 3⟩, ⟨"c", none⟩, ⟨"d", some 5⟩, ⟨"e", some 1⟩]
  holds e b := b.satisfies e
  has f b := b.has f
  le := Book.le
  project entries b := ⟨b.name, if entries.any (·.1 == "stars") then b.stars else none⟩
  other _ rows := rows
  holds_and conditions b := by simp [Book.satisfies, b.satisfiesAll_eq]
  holds_or conditions b := by simp [Book.satisfies, b.satisfiesAny_eq]
  holds_exists f b := by simp [Book.satisfies]
  le_total f a b := by
    by_cases named : f = ⟨"__name__"⟩
    · simpa [Book.le, named] using String.le_total a.name b.name
    · simpa [Book.le, named] using Int.le_total (a.stars.getD 0) (b.stars.getD 0)
  le_trans f a b c hab hbc := by
    by_cases named : f = ⟨"__name__"⟩
    · simp only [Book.le, named, if_true, decide_eq_true_eq] at hab hbc ⊢
      exact String.le_trans hab hbc
    · simp only [Book.le, named, if_false, decide_eq_true_eq] at hab hbc ⊢
      exact Int.le_trans hab hbc
  name_eq a b hab hba := by
    simp only [Book.le, if_true, decide_eq_true_eq] at hab hba
    exact String.le_antisymm hab hba

/-- Of the books with more than one star, best first and the last one left out, the last two. -/
def lastGoodBooks : Query where
  source := .collection ⟨⟨"library", "main"⟩, ["books"]⟩
  filters := [.field ⟨"stars"⟩ .greaterThan (.integer 1)]
  order := [(⟨"stars"⟩, .descending)]
  offset := some 1
  limit := some 2
  limitToLast := true
  projection := some [⟨"stars"⟩]

theorem lastGoodBooks_answers :
    ∃ p, lastGoodBooks.toPipeline = .ok p ∧ bookshelf.run p = bookshelf.answer lastGoodBooks :=
  ⟨_, rfl, Engine.toPipeline_answers bookshelf rfl (by decide)⟩

end DocumentPipeline
