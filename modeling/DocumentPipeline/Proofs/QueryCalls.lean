import DocumentPipeline.Proofs.QueryStages
import Mathlib.Data.List.Induction

/-!
# Calls that put queries together

A query is put together by calls in some order. What its pipeline is depends on what the calls say
about each part of the query, and on nothing else:

* `QueryCall`, `Query.after`: the calls, and a query after some of them;
* `Query.told`: the query in which each part is what the calls say about it;
* `Query.after_eq_told`: calls lead to just that query;
* `Query.after_last_limit`: only the last limit counts, with the end that it keeps rows from;
* `SayAlike`: calls that say the same about each part;
* `Query.toPipeline_after_calls`: what the pipeline is after calls.
-/

namespace DocumentPipeline

/-- A call that says more about what a query asks for. -/
inductive QueryCall where
  | filter (f : Filter)
  | whereField (field : Field) (operator : FilterOperator) (value : Constant)
  | orderBy (field : Field) (direction : Direction)
  | offset (count : UInt32)
  | limit (count : UInt32)
  | limitToLast (count : UInt32)
  | select (fields : List Field)

namespace QueryCall

def run (q : Query) : QueryCall → Query
  | .filter f => q.addFilter f
  | .whereField field operator value => q.addFilter (.field field operator value)
  | .orderBy field direction => q.orderBy field direction
  | .offset count => q.setOffset count
  | .limit count => q.setLimit count
  | .limitToLast count => q.setLimitToLast count
  | .select fields => q.select fields

/-! ## What a call says about each part of a query -/

def filter? : QueryCall → Option Filter
  | .filter f => some f
  | .whereField field operator value => some (.field field operator value)
  | _ => none

def key? : QueryCall → Option (Field × Direction)
  | .orderBy field direction => some (field, direction)
  | _ => none

def offset? : QueryCall → Option UInt32
  | .offset count => some count
  | _ => none

/-- The number of rows to keep, and whether they are the last ones. -/
def limit? : QueryCall → Option (UInt32 × Bool)
  | .limit count => some (count, false)
  | .limitToLast count => some (count, true)
  | _ => none

def projection? : QueryCall → Option (List Field)
  | .select fields => some fields
  | _ => none

end QueryCall

/-- The last thing that calls say about a part of a query. -/
def lastSaid {α : Type} (about : QueryCall → Option α) (calls : List QueryCall) : Option α :=
  (calls.filterMap about).getLast?

/-- Calls that say the same: the same filters and the same sort keys, each in the same order, and
the same last offset, limit and projection. -/
structure SayAlike (calls others : List QueryCall) : Prop where
  filters : calls.filterMap (·.filter?) = others.filterMap (·.filter?)
  order : calls.filterMap (·.key?) = others.filterMap (·.key?)
  offset : lastSaid (·.offset?) calls = lastSaid (·.offset?) others
  limit : lastSaid (·.limit?) calls = lastSaid (·.limit?) others
  projection : lastSaid (·.projection?) calls = lastSaid (·.projection?) others

namespace Query
variable (q : Query)

/-- A query after calls, one by one. -/
def after (calls : List QueryCall) : Query := calls.foldl QueryCall.run q

/-- A query with each part as calls say. Filters and sort keys add up; of anything else only what is
said last counts. -/
def told (calls : List QueryCall) : Query where
  source := q.source
  filters := q.filters ++ calls.filterMap (·.filter?)
  order := q.order ++ calls.filterMap (·.key?)
  offset := (lastSaid (·.offset?) calls).or q.offset
  limit := ((lastSaid (·.limit?) calls).map (·.1)).or q.limit
  limitToLast := ((lastSaid (·.limit?) calls).map (·.2)).getD q.limitToLast
  projection := (lastSaid (·.projection?) calls).or q.projection

end Query

/-! ## Runs of calls -/

theorem lastSaid_concat {α : Type} (about : QueryCall → Option α) (calls : List QueryCall)
    (call : QueryCall) :
    lastSaid about (calls ++ [call]) = (about call).or (lastSaid about calls) := by
  cases said : about call <;> simp [lastSaid, said]

/-- A call changes what it is about, and nothing else. -/
theorem QueryCall.run_told (q : Query) (calls : List QueryCall) (call : QueryCall) :
    call.run (q.told calls) = q.told (calls ++ [call]) := by
  cases call <;>
    simp [run, Query.told, Query.addFilter, Query.orderBy, Query.setOffset, Query.setLimit,
      Query.setLimitToLast, Query.select, lastSaid_concat, filter?, key?, offset?, limit?,
      projection?]

namespace Query
variable {q : Query}

/-- Calls in any number and order, filters among limits and the like, come to what they say. -/
theorem after_eq_told (q : Query) (calls : List QueryCall) : q.after calls = q.told calls := by
  induction calls using List.reverseRecOn with
  | nil => simp [after, told, lastSaid]
  | append_singleton calls call ih =>
    rw [after, List.foldl_append, List.foldl_cons, List.foldl_nil, ← after, ih, call.run_told]

/-- **The last limit is the one that counts**, and the rows that it keeps are those that it asks
for: no limit that was set before leaves its mark. -/
theorem after_last_limit {before later : List QueryCall} {call : QueryCall} {count : UInt32}
    {toLast : Bool} (said : call.limit? = some (count, toLast))
    (unsaid : ∀ call ∈ later, call.limit? = none) :
    (q.after (before ++ call :: later)).limit = some count ∧
      (q.after (before ++ call :: later)).limitToLast = toLast := by
  have silent : later.filterMap (·.limit?) = [] := List.filterMap_eq_nil_iff.2 unsaid
  have last : lastSaid (·.limit?) (before ++ call :: later) = some (count, toLast) := by
    rw [lastSaid, List.filterMap_append, List.filterMap_cons_some said, silent,
      List.getLast?_concat]
  rw [after_eq_told, told, last]
  exact ⟨rfl, rfl⟩

example (n m : UInt32) :
    (q.after [.limitToLast n, .offset m, .limit m]).limit = some m ∧
      (q.after [.limitToLast n, .offset m, .limit m]).limitToLast = false :=
  ⟨rfl, rfl⟩

theorem told_congr {calls others : List QueryCall} (alike : SayAlike calls others) :
    q.told calls = q.told others := by
  rw [told, told, alike.filters, alike.order, alike.offset, alike.limit, alike.projection]

/-! ## Pipelines -/

/-- **The pipeline of a query after calls.** Calls that say the same about each part of a query lead
to the same pipeline or to the same error. The stages are those that the calls ask for, slot after
slot; an error is the first thing wrong with what they ask for. -/
theorem toPipeline_after_calls (calls : List QueryCall) :
    (∀ others, SayAlike calls others →
      (q.after calls).toPipeline = (q.after others).toPipeline) ∧
    (∀ p, (q.after calls).toPipeline = .ok p →
      ∃ conditions, (q.told calls).filters.mapM Filter.toCondition = .ok conditions ∧
        p.stages = ((q.told calls).slots conditions).map (⟨·, []⟩)) ∧
    ∀ e, (q.after calls).toPipeline = .error e ↔ (q.told calls).Refusal e := by
  rw [after_eq_told]
  refine ⟨fun others alike => ?_, fun p h => ?_, fun e => toPipeline_eq_error _⟩
  · rw [after_eq_told, told_congr alike]
  · obtain ⟨-, -, conditions, filters, rfl⟩ := (q.told calls).toPipeline_eq_ok.1 h
    refine ⟨conditions, filters, ?_⟩
    rw [Pipeline.stages_appendAll]
    rfl

end Query
end DocumentPipeline
