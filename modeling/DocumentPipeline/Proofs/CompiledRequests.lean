import DocumentPipeline.Client
import DocumentPipeline.Proofs.BuilderCalls
import DocumentPipeline.Proofs.OptionMerging

/-!
# Compiled requests

What the parts of a request come from:

* `compile_eq_ok`: when a pipeline is compiled, and into what;
* `AsksFor`: options that ask for a mode where nothing was said about it, and are as they were
  otherwise;
* `addExplain_asksFor`: a mode is asked for in this way;
* `mergeRaw_leavesOpen`: raw options leave the mode open unless one of them is set at the explain
  options themselves or at their mode;
* `compile_explains`: the options of a request are the raw options of the call, with a mode if one
  is wanted, and nothing else in the request depends on the raw options.
-/

namespace DocumentPipeline

open Encoding
open Wire (Value)
open Request (explainKey modeKey)

theorem ExplainMode.ofName?_name (mode : ExplainMode) : ofName? mode.name = some mode := by
  cases mode <;> rfl

namespace Client

/-- The mode that a call runs in: its own or, failing that, that of the client. -/
def mode? (c : Client) (o : ExecuteOptions) : Option ExplainMode := o.explain.or c.settings.explain

/-- **When a pipeline is compiled:** it is on the database of the client, its own stages are no more
than allowed, and both it and the raw options of the call have a wire form. -/
theorem compile_eq_ok {c : Client} {p : Pipeline} {o : ExecuteOptions} {request : Request} :
    c.compile p o = .ok request ↔
      p.database = c.database ∧ p.length ≤ c.settings.maxStages ∧
        ∃ stages merged, p.toWire c.settings.skipUndefined = .ok stages ∧
          requestScope.merge c.settings.skipUndefined [] o.rawOptions = .ok merged ∧
          request = ⟨c.database.resourceName,
            ⟨stages, (c.mode? o).elim merged (addExplain · merged)⟩, o.consistency⟩ := by
  have laid : c.compile p o = (do
      c.database.require p.database
      if c.settings.maxStages < p.length then
        throw (.invalidArgument (.tooManyStages p.length c.settings.maxStages))
      let stages ← p.toWire c.settings.skipUndefined
      let merged ← requestScope.merge c.settings.skipUndefined [] o.rawOptions
      return ⟨c.database.resourceName,
        ⟨stages, (c.mode? o).elim merged (addExplain · merged)⟩, o.consistency⟩) := by
    unfold compile mode?
    cases o.explain.or c.settings.explain <;> rfl
  rw [laid, then_eq_ok, DatabaseId.require_eq_ok]
  by_cases long : c.settings.maxStages < p.length
  · rw [if_pos long]
    constructor
    · rintro ⟨-, h⟩
      cases h
    · rintro ⟨-, short, -⟩
      omega
  · rw [if_neg long]
    have short : p.length ≤ c.settings.maxStages := by omega
    simp only [short, true_and, bind_eq_ok, pure_eq_ok]
    constructor
    · rintro ⟨same, stages, hstages, merged, hmerged, rfl⟩
      exact ⟨same, stages, merged, hstages, hmerged, rfl⟩
    · rintro ⟨same, stages, merged, hstages, hmerged, rfl⟩
      exact ⟨same, stages, hstages, merged, hmerged, rfl⟩

/-! ## Asking for a mode -/

/-- Options in which nothing is said about the mode. -/
def LeavesOpen (m : FieldMap Value) : Prop :=
  m.get? explainKey = none ∨
    ∃ fields : FieldMap Value, m.get? explainKey = some (.map fields) ∧ fields.get? modeKey = none

/-- What becomes of options when a mode is asked for. Without explain options there are some with
the mode alone; explain options without a mode get it and keep all else; explain options that have
a mode, or are no map, stay as they are, and so do all other options. -/
structure AsksFor (mode : ExplainMode) (before after : FieldMap Value) : Prop where
  others : ∀ key, key ≠ explainKey → after.get? key = before.get? key
  unset : before.get? explainKey = none →
    after.get? explainKey = some (.map [(modeKey, .string mode.name)])
  added : ∀ fields : FieldMap Value, before.get? explainKey = some (.map fields) →
    fields.get? modeKey = none →
    ∃ fields' : FieldMap Value, after.get? explainKey = some (.map fields') ∧
      fields'.get? modeKey = some (.string mode.name) ∧
      ∀ key, key ≠ modeKey → fields'.get? key = fields.get? key
  kept : ∀ v, before.get? explainKey = some v →
    (∀ fields : FieldMap Value, v = .map fields → (fields.get? modeKey).isSome) →
    after.get? explainKey = some v

theorem withMode_get? {mode : ExplainMode} {fields : FieldMap Value}
    (absent : fields.get? modeKey = none) (key : String) :
    (withMode mode fields).get? key =
      if modeKey = key then some (.string mode.name) else fields.get? key := by
  rw [withMode, absent, Option.isSome_none, if_neg Bool.false_ne_true, FieldMap.get?_insert]

/-- **Asking for a mode** changes nothing but the explain options, and these only if they leave the
mode open. -/
theorem addExplain_asksFor (mode : ExplainMode) (before : FieldMap Value) :
    AsksFor mode before (addExplain mode before) where
  others := by
    intro key differs
    unfold addExplain
    split
    · rw [FieldMap.get?_insert, if_neg (Ne.symm differs)]
    · rw [FieldMap.get?_insert, if_neg (Ne.symm differs)]
    · rfl
  unset := by
    intro absent
    simp only [addExplain, absent, FieldMap.get?_insert, if_true]
    rfl
  added := by
    intro fields found absent
    refine ⟨withMode mode fields, ?_, ?_, ?_⟩
    · simp only [addExplain, found, FieldMap.get?_insert, if_true]
    · rw [withMode_get? absent, if_pos rfl]
    · intro key differs
      rw [withMode_get? absent, if_neg (Ne.symm differs)]
  kept := by
    intro v found settles
    unfold addExplain
    split
    · next none =>
      rw [found] at none
      cases none
    · next fields map =>
      obtain rfl : v = .map fields := Option.some.inj (found.symm.trans map)
      have settled : withMode mode fields = fields := by
        rw [withMode, if_pos (settles fields rfl)]
      rw [settled, FieldMap.get?_insert, if_pos rfl]
    · exact found

/-- The mode that options with a certain map of explain options ask for. -/
theorem AsksFor.found {mode : ExplainMode} {before after : FieldMap Value}
    (asks : AsksFor mode before after) (leavesOpen : LeavesOpen before) :
    ∃ fields : FieldMap Value, after.get? explainKey = some (.map fields) ∧
      fields.get? modeKey = some (.string mode.name) := by
  obtain absent | ⟨fields, found, absent⟩ := leavesOpen
  · exact ⟨_, asks.unset absent, rfl⟩
  · obtain ⟨fields', found', added, -⟩ := asks.added fields found absent
    exact ⟨fields', found', added⟩

/-! ## Raw options -/

/-- A path to the explain options themselves, or to their mode or something in it. -/
def SettlesMode (path : List String) : Prop := path = [explainKey] ∨ [explainKey, modeKey] <+: path

/-- Setting a value at another path says nothing about the mode. -/
theorem setPath_leavesOpen {v : Value} {path : List String} {m : FieldMap Value}
    (other : ¬SettlesMode path) (leavesOpen : LeavesOpen m) : LeavesOpen (setPath v path m).1 := by
  unfold SettlesMode at other
  match path with
  | [] => exact leavesOpen
  | [key] =>
    have differs : key ≠ explainKey := fun same => other (.inl (by rw [same]))
    unfold LeavesOpen at leavesOpen ⊢
    rw [get?_setPath_of_ne v (by simpa using differs)]
    exact leavesOpen
  | key :: next :: rest =>
    by_cases same : key = explainKey
    · subst same
      have differs : next ≠ modeKey := by
        rintro rfl
        exact other (.inr (by simp))
      -- The explain options become a map, if they are none, in which another field is set.
      refine .inr ⟨(setPath v (next :: rest) (fieldsOf (m.get? explainKey))).1, ?_, ?_⟩
      · simp only [setPath, FieldMap.get?_insert, if_true]
      · rw [get?_setPath_of_ne v (by simpa using differs)]
        obtain absent | ⟨fields, found, absent⟩ := leavesOpen
        · rw [absent]
          rfl
        · rw [found]
          exact absent
    · unfold LeavesOpen at leavesOpen ⊢
      rw [get?_setPath_of_ne v (by simpa using same)]
      exact leavesOpen

/-- **Raw options leave the mode open** unless one is set at a path that says something about it. -/
theorem mergeRaw_leavesOpen {scope : OptionScope} {skipUndefined : Bool} {raw : RawOptions}
    {m : FieldMap Value} (others : ∀ entry ∈ raw, ¬SettlesMode (Text.split '.' entry.1))
    (h : scope.mergeRaw skipUndefined raw [] = .ok m) : LeavesOpen m := by
  refine mergeRaw_preserves (P := LeavesOpen) ?_ (.inl rfl) h
  intro entry hentry v _ m hm
  exact setPath_leavesOpen (others entry hentry) hm

/-- **What the options of a request are.** Let the mode be that of the call or else that of the
client. Without a mode the options of the request are the raw options of the call. With one they ask
for it where the raw options leave it open, and are those otherwise; so the request runs in that
mode whenever no raw option is set at the explain options themselves or at their mode. The rest of
the request does not depend on the raw options. -/
theorem compile_explains {c : Client} {p : Pipeline} {o : ExecuteOptions} {request : Request}
    (compiled : c.compile p o = .ok request) :
    ∃ merged, requestScope.merge c.settings.skipUndefined [] o.rawOptions = .ok merged ∧
      (c.mode? o = none → request.pipeline.options = merged) ∧
      (∀ mode, c.mode? o = some mode →
        AsksFor mode merged request.pipeline.options ∧
          ((∀ entry ∈ o.rawOptions, ¬SettlesMode (Text.split '.' entry.1)) →
            request.explainMode? = some mode)) ∧
      (request.database = c.database.resourceName ∧
        p.toWire c.settings.skipUndefined = .ok request.pipeline.stages ∧
        request.consistency = o.consistency) ∧
      ∀ raw other, c.compile p { o with rawOptions := raw } = .ok other →
        other.database = request.database ∧ other.pipeline.stages = request.pipeline.stages ∧
          other.consistency = request.consistency := by
  obtain ⟨-, -, stages, merged, hstages, hmerged, rfl⟩ := compile_eq_ok.1 compiled
  refine ⟨merged, hmerged, ?_, ?_, ⟨rfl, hstages, rfl⟩, ?_⟩
  · intro unset
    simp only [unset, Option.elim_none]
  · intro mode wanted
    simp only [wanted, Option.elim_some]
    have asks := addExplain_asksFor mode merged
    refine ⟨asks, ?_⟩
    intro others
    obtain ⟨fields, found, mode_found⟩ := asks.found (mergeRaw_leavesOpen others hmerged)
    simp only [Request.explainMode?, found, mode_found, Value.map?, Value.string?,
      Option.bind_eq_bind, Option.bind_some, ExplainMode.ofName?_name]
  · intro raw other compiled'
    obtain ⟨-, -, stages', merged', hstages', -, rfl⟩ := compile_eq_ok.1 compiled'
    rw [hstages] at hstages'
    cases hstages'
    exact ⟨rfl, rfl, rfl⟩

/-- A call that asks for statistics and has raw options of its own for them. -/
theorem analyzed_call_explains :
    ∃ request, compile ⟨.ofProject "library", false⟩ (.ofDatabase (.ofProject "library") [])
        ⟨none, some .analyze,
          [("explain_options.output_format", .constant (.string "json")),
            ("hints.scan", .constant (.boolean true))]⟩ = .ok request ∧
      request.explainMode? = some .analyze := by
  have compiled : compile ⟨.ofProject "library", false⟩ (.ofDatabase (.ofProject "library") [])
      ⟨none, some .analyze,
        [("explain_options.output_format", .constant (.string "json")),
          ("hints.scan", .constant (.boolean true))]⟩ =
      .ok ⟨"projects/library/databases/(default)",
        ⟨[⟨"database", [], []⟩],
          [("explain_options",
              .map [("mode", .string "analyze"), ("output_format", .string "json")]),
            ("hints", .map [("scan", .boolean true)])]⟩, none⟩ := rfl
  obtain ⟨merged, -, -, explained, -⟩ := compile_explains compiled
  obtain ⟨-, runs⟩ := explained .analyze rfl
  refine ⟨_, compiled, runs ?_⟩
  unfold SettlesMode
  decide

end Client
end DocumentPipeline
