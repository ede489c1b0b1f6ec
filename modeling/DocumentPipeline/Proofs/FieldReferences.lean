import DocumentPipeline.Builder
import DocumentPipeline.Proofs.Contents
import DocumentPipeline.Proofs.ExpressionPaths
import DocumentPipeline.Proofs.OptionMerging

/-!
# Field references on the wire

Every field reference in the wire form of a pipeline is a dotted path, with one exception: nothing
checks the names that unnested elements go by, and they are sent as references to fields.

* `Pipeline.elementNames`: the names of unnested elements;
* `merge_fieldsDotted`, `encodeBody_pathsDotted`: the options and the arguments of a stage refer to
  fields that were checked and to those names;
* `toWire_paths_dotted_iff`: the references in a pipeline are dotted paths just when the names of
  its unnested elements are.
-/

namespace DocumentPipeline

/-- The wire values in all literals of a pipeline and of the pipelines nested in it. -/
def Pipeline.wireValues (p : Pipeline) : List Wire.Value :=
  p.stagesWithin.flatMap fun s => s.expressions.flatMap (·.wireValues)

/-- The name that the elements of an array go by after an unnesting. -/
def StageBody.elementName? : StageBody → Option String
  | .unnest _ name _ => some name
  | _ => none

/-- The names of all unnested elements in a pipeline and in the pipelines nested in it. -/
def Pipeline.elementNames (p : Pipeline) : List String :=
  p.stagesWithin.filterMap (·.body.elementName?)

section
variable {skipUndefined : Bool}

open Validation Encoding
open Wire

/-- Every field reference in the values of a map is a dotted path. -/
def FieldsDotted (m : FieldMap Value) : Prop := ∀ field ∈ m, field.2.PathsDotted

theorem fieldsDotted_nil : FieldsDotted [] := fun _ h => nomatch h

theorem FieldsDotted.insert {m : FieldMap Value} (hm : FieldsDotted m) (key : String) {v : Value}
    (hv : v.PathsDotted) : FieldsDotted (m.insert key v) := by
  intro field hfield
  obtain rfl | hfield := FieldMap.mem_insert hfield
  · exact hv
  · exact hm field hfield

theorem fieldsDotted_fieldsOf_get? {m : FieldMap Value} (hm : FieldsDotted m) (key : String) :
    FieldsDotted (fieldsOf (m.get? key)) := by
  cases found : m.get? key with
  | none => exact fun _ h => nomatch h
  | some v =>
    cases v with
    | map fields => exact (hm _ (FieldMap.mem_of_get? found)).field
    | _ => exact fun _ h => nomatch h

theorem FieldsDotted.setPath {v : Value} (hv : v.PathsDotted) {segments : List String}
    {m : FieldMap Value} (hm : FieldsDotted m) : FieldsDotted (setPath v segments m).1 := by
  induction segments generalizing m with
  | nil => exact hm
  | cons key rest ih =>
    cases rest with
    | nil => exact hm.insert key hv
    | cons next rest =>
      exact hm.insert key (pathsDotted_map (ih (fieldsDotted_fieldsOf_get? hm key)))

/-- The known options of a stage refer to the fields that the stage names. -/
theorem computedOptions_pathsDotted {body : StageBody}
    (dotted : ∀ f ∈ body.plainFields, Dotted f.path) :
    ∀ entry ∈ body.computedOptions, ∀ v,
      encodeOption skipUndefined entry.2 = .ok v → v.PathsDotted := by
  intro entry hentry v hv
  cases body with
  | collection c forceIndex | collectionGroup id forceIndex =>
    simp only [StageBody.computedOptions, Option.toList_map, List.mem_map] at hentry
    obtain ⟨index, -, rfl⟩ := hentry
    cases hv
    exact pathsDotted_of_none rfl
  | findNearest search =>
    simp only [StageBody.computedOptions, Option.toList_map, List.mem_append, List.mem_map]
      at hentry
    obtain ⟨n, -, rfl⟩ | ⟨f, hf, rfl⟩ := hentry
    · cases hv
      exact pathsDotted_of_none rfl
    · cases hv
      exact List.forall_mem_singleton.2 (dotted f (List.mem_cons_of_mem _ hf))
  | unnest e name indexField =>
    simp only [StageBody.computedOptions, Option.toList_map, List.mem_map] at hentry
    obtain ⟨f, hf, rfl⟩ := hentry
    cases hv
    exact List.forall_mem_singleton.2 (dotted f hf)
  | _ => cases hentry

/-- The options of a stage refer to fields that were checked. -/
theorem merge_fieldsDotted {scope : OptionScope} {computed : ComputedOptions} {raw : RawOptions}
    {options : FieldMap Value}
    (dotted : ∀ entry ∈ computed, ∀ v, encodeOption skipUndefined entry.2 = .ok v → v.PathsDotted)
    (plain : ∀ entry ∈ raw, entry.2.wireValues = [])
    (checked : ∀ entry ∈ raw, checkExpression skipUndefined entry.2 = .ok ())
    (h : scope.merge skipUndefined computed raw = .ok options) : FieldsDotted options := by
  obtain ⟨m, hm, h⟩ := bind_eq_ok.1 h
  have known : FieldsDotted m := by
    refine foldlM_addComputed_preserves ?_ fieldsDotted_nil hm
    exact fun entry hentry key v _ hv m hm => hm.insert key (dotted entry hentry v hv)
  refine mergeRaw_preserves ?_ known h
  intro entry hentry v hv m hm
  exact hm.setPath (encodeExpression_pathsDotted (plain entry hentry) (checked entry hentry) hv)

/-- Whatever an expression is encoded as, every field reference in it is a dotted path. -/
def SentDotted (skipUndefined : Bool) (e : Expression) : Prop :=
  ∀ v, encodeExpression skipUndefined e = .ok v → v.PathsDotted

theorem encodeNamed_pathsDotted {entries : ExpressionMap} {v : Value}
    (dotted : ∀ entry ∈ entries, SentDotted skipUndefined entry.2)
    (h : encodeNamed skipUndefined entries = .ok v) : v.PathsDotted := by
  obtain ⟨m, hm, hv⟩ := bind_eq_ok.1 h
  cases hv
  rw [encodeNamedFrom_eq] at hm
  refine pathsDotted_map fun field hfield => ?_
  obtain ⟨entry, hentry, hv⟩ := of_mem_insertAll hm hfield
  exact dotted entry hentry _ hv

theorem encodeAggregate_pathsDotted {a : Aggregate} {v : Value}
    (dotted : ∀ e ∈ a.arguments, SentDotted skipUndefined e)
    (h : encodeAggregate skipUndefined a = .ok v) : v.PathsDotted := by
  obtain ⟨vs, hvs, hv⟩ := bind_eq_ok.1 h
  cases hv
  rw [encodeExpressions_eq_mapM] at hvs
  refine pathsDotted_call fun v hv => ?_
  obtain ⟨e, he, hev⟩ := (mem_mapM hvs).1 hv
  exact dotted e he v hev

theorem encodeAccumulators_pathsDotted {accumulators : OrderedMap Aggregate} {v : Value}
    (dotted : ∀ entry ∈ accumulators, ∀ e ∈ entry.2.arguments, SentDotted skipUndefined e)
    (h : encodeAccumulators skipUndefined accumulators = .ok v) : v.PathsDotted := by
  obtain ⟨fields, hfields, hv⟩ := bind_eq_ok.1 h
  cases hv
  refine pathsDotted_ofFields fun field hfield => ?_
  obtain ⟨entry, hentry, hunder⟩ := (mem_mapM hfields).1 hfield
  obtain ⟨v, hv, hpair⟩ := bind_eq_ok.1 hunder
  cases hpair
  exact encodeAggregate_pathsDotted (dotted entry hentry) hv

theorem encodeSortKey_pathsDotted {k : SortKey} {v : Value}
    (dotted : SentDotted skipUndefined k.expression)
    (h : encodeSortKey skipUndefined k = .ok v) : v.PathsDotted := by
  obtain ⟨key, hkey, hv⟩ := bind_eq_ok.1 h
  cases hv
  refine pathsDotted_ofFields (List.forall_mem_cons.2 ⟨?_, List.forall_mem_singleton.2 ?_⟩)
  · exact pathsDotted_of_none rfl
  · exact dotted key hkey

theorem encodeParameter_pathsDotted {p : Parameter} {v : Value}
    (dotted : ∀ e ∈ p.expressions, SentDotted skipUndefined e)
    (h : encodeParameter skipUndefined p = .ok v) : v.PathsDotted := by
  cases p with
  | expression e => exact dotted e List.mem_cons_self v h
  | aggregate a => exact encodeAggregate_pathsDotted dotted h

/-- The arguments of a stage refer to the fields and expressions that the stage holds, and to the
name of an unnested element. -/
theorem encodeBody_pathsDotted {body : StageBody} {arguments : List Value}
    (dotted : ∀ e ∈ body.expressions, SentDotted skipUndefined e)
    (fields : ∀ f ∈ body.plainFields, Dotted f.path)
    (names : ∀ name, body.elementName? = some name → Dotted name)
    (inner : ∀ other, body = .union other → ∀ stages,
      encodePipeline skipUndefined other = .ok stages → ∀ s ∈ stages, s.PathsDotted)
    (h : encodeBody skipUndefined body = .ok arguments) : ∀ v ∈ arguments, v.PathsDotted := by
  cases body with
  | collection c _ =>
    cases h
    exact List.forall_mem_singleton.2 (pathsDotted_of_none rfl)
  | collectionGroup id _ =>
    cases h
    exact List.forall_mem_cons.2
      ⟨pathsDotted_of_none rfl, List.forall_mem_singleton.2 (pathsDotted_of_none rfl)⟩
  | database =>
    cases h
    exact fun _ h => nomatch h
  | documents ds =>
    cases h
    exact List.forall_mem_map.2 fun d _ => pathsDotted_of_none rfl
  | addFields entries | select entries | distinct entries =>
    obtain ⟨v, hv, hvs⟩ := bind_eq_ok.1 (mapError_eq_ok.1 h)
    cases hvs
    refine List.forall_mem_singleton.2 (encodeNamed_pathsDotted (fun entry hentry => ?_) hv)
    exact dotted _ (List.mem_map_of_mem hentry)
  | removeFields names =>
    cases h
    exact List.forall_mem_map.2 fun f hf => List.forall_mem_singleton.2 (fields f hf)
  | filter c =>
    obtain ⟨v, hv, hvs⟩ := bind_eq_ok.1 (mapError_eq_ok.1 h)
    cases hvs
    exact List.forall_mem_singleton.2 (dotted _ List.mem_cons_self v hv)
  | offset n | limit n =>
    cases h
    exact List.forall_mem_singleton.2 (pathsDotted_of_none rfl)
  | aggregate accumulators groups =>
    obtain ⟨v, hv, h⟩ := bind_eq_ok.1 (mapError_eq_ok.1 h)
    obtain ⟨g, hg, hvs⟩ := bind_eq_ok.1 h
    cases hvs
    obtain ⟨inAccumulators, inGroups⟩ := List.forall_mem_append.1 dotted
    refine List.forall_mem_cons.2 ⟨?_, List.forall_mem_singleton.2 ?_⟩
    · exact encodeAccumulators_pathsDotted (List.forall_mem_flatMap.1 inAccumulators) hv
    · exact encodeNamed_pathsDotted (List.forall_mem_map.1 inGroups) hg
  | findNearest search =>
    obtain ⟨v, hv, hvs⟩ := bind_eq_ok.1 (mapError_eq_ok.1 h)
    cases hvs
    refine List.forall_mem_cons.2 ⟨?_, List.forall_mem_cons.2 ⟨?_, List.forall_mem_singleton.2 ?_⟩⟩
    · exact List.forall_mem_singleton.2 (fields _ List.mem_cons_self)
    · exact dotted _ List.mem_cons_self v hv
    · exact pathsDotted_of_none rfl
  | replaceWith e =>
    obtain ⟨v, hv, hvs⟩ := bind_eq_ok.1 (mapError_eq_ok.1 h)
    cases hvs
    exact List.forall_mem_cons.2 ⟨dotted _ List.mem_cons_self v hv,
      List.forall_mem_singleton.2 (pathsDotted_of_none rfl)⟩
  | sample rate =>
    cases h
    refine List.forall_mem_cons.2 ⟨?_, List.forall_mem_singleton.2 (pathsDotted_of_none rfl)⟩
    cases rate <;> exact pathsDotted_of_none rfl
  | union other =>
    obtain ⟨stages, hstages, hvs⟩ := bind_eq_ok.1 h
    cases hvs
    exact List.forall_mem_singleton.2 (pathsDotted_pipeline (inner other rfl stages hstages))
  | unnest e name _ =>
    obtain ⟨v, hv, hvs⟩ := bind_eq_ok.1 (mapError_eq_ok.1 h)
    cases hvs
    exact List.forall_mem_cons.2 ⟨dotted _ List.mem_cons_self v hv,
      List.forall_mem_singleton.2 (List.forall_mem_singleton.2 (names name rfl))⟩
  | sort keys =>
    intro v hv
    obtain ⟨k, hk, hkv⟩ := (mem_mapM (mapError_eq_ok.1 h)).1 hv
    exact encodeSortKey_pathsDotted (dotted _ (List.mem_map_of_mem hk)) hkv
  | mutation kind target =>
    cases h
    cases target with
    | none => exact fun _ h => nomatch h
    | some c => exact List.forall_mem_singleton.2 (pathsDotted_of_none rfl)
  | custom name parameters =>
    intro v hv
    obtain ⟨p, hp, hpv⟩ := (mem_mapM (mapError_eq_ok.1 h)).1 hv
    exact encodeParameter_pathsDotted (List.forall_mem_flatMap.1 dotted p hp) hpv

theorem encodeStage_pathsDotted {s : Stage} {w : Wire.Stage}
    (checked : checkStage skipUndefined s = .ok ())
    (plain : ∀ e ∈ s.expressions, e.wireValues = [])
    (names : ∀ name, s.body.elementName? = some name → Dotted name)
    (inner : ∀ other, s.body = .union other → checkPipeline skipUndefined other = .ok () →
      ∀ stages, encodePipeline skipUndefined other = .ok stages → ∀ s ∈ stages, s.PathsDotted)
    (h : encodeStage skipUndefined s = .ok w) : w.PathsDotted := by
  obtain ⟨hbody, hraw⟩ := checkStage_eq_ok.1 checked
  obtain ⟨hexpressions, hfields, hunion⟩ := checkBody_eq_ok.1 hbody
  obtain ⟨plain, plainRaw⟩ := List.forall_mem_append.1 plain
  obtain ⟨arguments, options, harguments, hoptions, rfl⟩ := encodeStage_eq_ok h
  refine pathsDotted_stage (List.forall_mem_append.2
    ⟨encodeBody_pathsDotted ?_ hfields names ?_ harguments, List.forall_mem_map.2 ?_⟩)
  · exact fun e he v hv => encodeExpression_pathsDotted (plain e he) (hexpressions e he) hv
  · exact fun other h => inner other h (hunion other h)
  · exact merge_fieldsDotted (computedOptions_pathsDotted hfields) (List.forall_mem_map.1 plainRaw)
      hraw hoptions

theorem encodePipeline_pathsDotted {p : Pipeline} {w : List Wire.Stage}
    (checked : checkPipeline skipUndefined p = .ok ())
    (plain : p.wireValues = []) (names : ∀ name ∈ p.elementNames, Dotted name)
    (h : encodePipeline skipUndefined p = .ok w) : ∀ s ∈ w, s.PathsDotted := by
  rw [Pipeline.wireValues, List.flatMap_eq_nil_iff] at plain
  replace plain : ∀ s ∈ p.stagesWithin, ∀ e ∈ s.expressions, e.wireValues = [] :=
    fun s hs => List.flatMap_eq_nil_iff.1 (plain s hs)
  replace names : ∀ s ∈ p.stagesWithin, ∀ name, s.body.elementName? = some name → Dotted name :=
    fun s hs name hname => names name (List.mem_filterMap.2 ⟨s, hs, hname⟩)
  induction p using Pipeline.inductNested generalizing w with
  | step p ih =>
    rw [encodePipeline_eq_mapM] at h
    intro ws hws
    obtain ⟨s, hs, hsw⟩ := (mem_mapM h).1 hws
    have own := Pipeline.mem_stagesWithin.2 (.inl hs)
    refine encodeStage_pathsDotted (checkPipeline_eq_ok.1 checked s hs) (plain s own) (names s own)
      (fun other union hother stages hstages => ?_) hsw
    have within {t} (ht : t ∈ other.stagesWithin) : t ∈ p.stagesWithin :=
      Pipeline.mem_stagesWithin.2 (.inr ⟨s, hs, other, union, ht⟩)
    exact ih s hs other union hother hstages (fun t ht => plain t (within ht))
      fun t ht => names t (within ht)

theorem fieldPaths_subset_of_argument {name : String} {arguments : List Value}
    {options : FieldMap Value} {v : Value} (hv : v ∈ arguments) :
    v.fieldPaths ⊆ Stage.fieldPaths ⟨name, arguments, options⟩ := by
  intro path hpath
  exact Stage.mem_fieldPaths.2 ⟨v, List.mem_append_left _ hv, hpath⟩

/-- The names of unnested elements are sent as references to fields. -/
theorem elementNames_subset {p : Pipeline} {w : List Wire.Stage}
    (h : encodePipeline skipUndefined p = .ok w) : p.elementNames ⊆ w.flatMap (·.fieldPaths) := by
  intro name hname
  rw [Pipeline.elementNames, List.mem_filterMap] at hname
  obtain ⟨s, hs, hname⟩ := hname
  induction p using Pipeline.inductNested generalizing w with
  | step p ih =>
    rw [encodePipeline_eq_mapM] at h
    have sent {t : Stage} (ht : t ∈ p.stages) : ∃ wt ∈ w, encodeStage skipUndefined t = .ok wt := by
      obtain ⟨wt, hwt⟩ := mapM_succeeds.1 ⟨w, h⟩ t ht
      exact ⟨wt, (mem_mapM h).2 ⟨t, ht, hwt⟩, hwt⟩
    rw [List.mem_flatMap]
    obtain hs | ⟨t, ht, other, union, hs⟩ := Pipeline.mem_stagesWithin.1 hs
    · obtain ⟨ws, hws, hsw⟩ := sent hs
      refine ⟨ws, hws, ?_⟩
      obtain ⟨arguments, options, harguments, -, rfl⟩ := encodeStage_eq_ok hsw
      obtain ⟨body, raw⟩ := s
      cases body <;> cases hname
      obtain ⟨v, -, hvs⟩ := bind_eq_ok.1 (mapError_eq_ok.1 harguments)
      cases hvs
      exact fieldPaths_subset_of_argument (List.mem_cons_of_mem _ List.mem_cons_self)
        List.mem_cons_self
    · obtain ⟨wt, hwt, htw⟩ := sent ht
      refine ⟨wt, hwt, ?_⟩
      obtain ⟨arguments, options, harguments, -, rfl⟩ := encodeStage_eq_ok htw
      rw [union, encodeBody, bind_eq_ok] at harguments
      obtain ⟨stages, hstages, hvs⟩ := harguments
      cases hvs
      refine fieldPaths_subset_of_argument List.mem_cons_self (Value.mem_fieldPaths.2 (.inr ?_))
      obtain ⟨s, hs, hpath⟩ := List.mem_flatMap.1 (ih t ht other union hstages hs)
      obtain ⟨part, hpart, hpath⟩ := Stage.mem_fieldPaths.1 hpath
      exact ⟨part, List.mem_flatMap.2 ⟨s, hs, hpart⟩, hpath⟩

/-- **The references to fields that leave in a pipeline** without wire values are dotted paths just
when the names of its unnested elements are: these are sent as they stand. -/
theorem toWire_paths_dotted_iff {p : Pipeline} {w : List Wire.Stage} (plain : p.wireValues = [])
    (sent : p.toWire skipUndefined = .ok w) :
    (∀ path ∈ w.flatMap (·.fieldPaths), path ≠ "" ∧ Dotted path) ↔
      ∀ name ∈ p.elementNames, Dotted name := by
  obtain ⟨⟨⟩, checked, sent⟩ := bind_eq_ok.1 sent
  constructor
  · exact fun dotted name hname => (dotted name (elementNames_subset sent hname)).2
  · intro names path hpath
    rw [List.mem_flatMap] at hpath
    obtain ⟨s, hs, hpath⟩ := hpath
    have dotted := encodePipeline_pathsDotted checked plain names sent s hs path hpath
    exact ⟨dotted.ne_empty, dotted⟩

/-- A pipeline that unnests the field `tags` of all documents. -/
def unnestTags (name : String) : Pipeline :=
  (Pipeline.ofDatabase (.ofProject "library") []).unnest (.aliased name (.field ⟨"tags"⟩)) none []

theorem toWire_unnestTags (name : String) :
    (unnestTags name).toWire skipUndefined =
      .ok [⟨"database", [], []⟩, ⟨"unnest", [.field "tags", .field name], []⟩] :=
  rfl

theorem unnestTags_paths_dotted :
    ∃ w, (unnestTags "tag").toWire false = .ok w ∧
      ∀ path ∈ w.flatMap (·.fieldPaths), path ≠ "" ∧ Dotted path := by
  have sent : (unnestTags "tag").toWire false = _ := toWire_unnestTags "tag"
  exact ⟨_, sent, (toWire_paths_dotted_iff rfl sent).2 (by decide)⟩

/-- An element without a name is sent as a reference to a field without a path. -/
theorem not_toWire_paths_dotted :
    ¬∀ (skipUndefined : Bool) (p : Pipeline) (w : List Wire.Stage), p.wireValues = [] →
      p.toWire skipUndefined = .ok w →
        ∀ path ∈ w.flatMap (·.fieldPaths), path ≠ "" ∧ Dotted path := by
  intro claim
  have dotted := claim false (unnestTags "") _ rfl (toWire_unnestTags "")
  exact (dotted "" (by decide)).1 rfl

end
end DocumentPipeline
