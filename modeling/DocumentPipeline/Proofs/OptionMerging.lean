import DocumentPipeline.Encoding.Pipeline
import DocumentPipeline.Proofs.NestedMaps
import DocumentPipeline.Proofs.Paths
import DocumentPipeline.Proofs.Success

/-!
# The options of a stage after merging

Known options are put under their wire names and raw options are laid over them at their paths. What
one step does to the map, and from it what a whole merge leaves there:

* `addComputed_eq_ok`, `applyRaw_cases`, `applyRaw_eq_ok`: the steps;
* `foldlM_addComputed_preserves`, `mergeRaw_preserves`: what every step keeps, a merge keeps;
* `mergeComputed_found`, `mergeRaw_found`: an option is found as long as no later one comes in its
  way;
* `merge_keeps_last`: every raw option that no later one overlaps is found at its path, every known
  option that no raw one touches under its wire name, and there is nothing else;
* `computedOptions_apart`, `computedOption_found`: no stage sets two options of one wire name, so
  that each is found that no raw one touches;
* `mergeRaw_swap`, `merge_perm`: raw options whose paths are apart may be given in any order.
-/

namespace DocumentPipeline.Encoding

open Wire (Value)

/-- The wire name of an option that is known by the given name. -/
def OptionScope.wireName? (scope : OptionScope) (name : String) : Option String :=
  (scope.known.find? (·.name == name)).map (·.wireName)

section
variable {skipUndefined : Bool} {scope : OptionScope}

/-- What it takes to add a known option. -/
theorem addComputed_eq_ok {m m' : FieldMap Value} {name : String} {value : OptionValue}
    (h : scope.addComputed skipUndefined m name value = .ok m') :
    ∃ key v, scope.wireName? name = some key ∧ encodeOption skipUndefined value = .ok v ∧
      m' = m.insert key v := by
  rw [OptionScope.addComputed] at h
  split at h
  · cases h
  · next known found =>
    split at h
    · cases h
    · obtain ⟨v, hv, h⟩ := bind_eq_ok.1 h
      cases h
      refine ⟨known.wireName, v, ?_, mapError_eq_ok.1 hv, rfl⟩
      rw [OptionScope.wireName?, found]
      rfl

/-- Whether a raw option can be set, and what it sets, does not depend on the options before it. -/
theorem applyRaw_cases (scope : OptionScope) (skipUndefined : Bool) (key : String)
    (e : Expression) :
    (∃ err, ∀ m, scope.applyRaw skipUndefined m key e = .error err) ∨
      ∃ v, encodeExpression skipUndefined e = .ok v ∧
        ∀ m, scope.applyRaw skipUndefined m key e = .ok (setPath v (Text.split '.' key) m) := by
  cases encoded : encodeExpression skipUndefined e with
  | error fault =>
    refine .inl ⟨.serialization (.option scope.stage key fault), fun m => ?_⟩
    rw [OptionScope.applyRaw, encoded]
    rfl
  | ok v =>
    by_cases empty : "" ∈ Text.split '.' key
    · refine .inl ⟨.invalidArgument (.emptyOptionSegment key), fun m => ?_⟩
      simp only [OptionScope.applyRaw, encoded, mapError_ok, ok_bind, if_pos empty]
      rfl
    · refine .inr ⟨v, rfl, fun m => ?_⟩
      simp only [OptionScope.applyRaw, encoded, mapError_ok, ok_bind, if_neg empty]
      rfl

/-- What it takes to lay a raw option over the others. -/
theorem applyRaw_eq_ok {m : FieldMap Value} {key : String} {e : Expression}
    {r : FieldMap Value × Bool} (h : scope.applyRaw skipUndefined m key e = .ok r) :
    ∃ v, encodeExpression skipUndefined e = .ok v ∧ r = setPath v (Text.split '.' key) m := by
  obtain ⟨err, fails⟩ | ⟨v, hv, sets⟩ := applyRaw_cases scope skipUndefined key e
  · rw [fails] at h
    cases h
  · rw [sets] at h
    cases h
    exact ⟨v, hv, rfl⟩

/-- A property of the map that every known option keeps is kept by all of them together. -/
theorem foldlM_addComputed_preserves {P : FieldMap Value → Prop} {computed : ComputedOptions}
    {m m' : FieldMap Value}
    (step : ∀ entry ∈ computed, ∀ key v, scope.wireName? entry.1 = some key →
      encodeOption skipUndefined entry.2 = .ok v → ∀ m, P m → P (m.insert key v)) (hm : P m)
    (h : computed.foldlM (fun m (name, value) =>
      scope.addComputed skipUndefined m name value) m = .ok m') : P m' := by
  induction computed generalizing m with
  | nil =>
    cases h
    exact hm
  | cons entry rest ih =>
    obtain ⟨hentry, hrest⟩ := List.forall_mem_cons.1 step
    rw [List.foldlM_cons, bind_eq_ok] at h
    obtain ⟨next, hadd, h⟩ := h
    obtain ⟨key, v, hkey, hv, rfl⟩ := addComputed_eq_ok hadd
    exact ih hrest (hentry key v hkey hv m hm) h

/-- A known option is kept while those after it have other wire names. -/
theorem foldlM_addComputed_get? {computed : ComputedOptions} {m m' : FieldMap Value} {key : String}
    (others : ∀ entry ∈ computed, scope.wireName? entry.1 ≠ some key)
    (h : computed.foldlM (fun m (name, value) =>
      scope.addComputed skipUndefined m name value) m = .ok m') :
    m'.get? key = m.get? key := by
  refine foldlM_addComputed_preserves (P := fun n => n.get? key = m.get? key) ?_ rfl h
  intro entry hentry wire v hwire _ n hn
  have differs : wire ≠ key := fun same => others entry hentry (same ▸ hwire)
  rw [FieldMap.get?_insert, if_neg differs, hn]

theorem foldlM_addComputed_keys {computed : ComputedOptions} {m m' : FieldMap Value}
    (h : computed.foldlM (fun m (name, value) =>
      scope.addComputed skipUndefined m name value) m = .ok m') (key : String) :
    key ∈ m'.keys ↔ (∃ entry ∈ computed, scope.wireName? entry.1 = some key) ∨ key ∈ m.keys := by
  induction computed generalizing m with
  | nil =>
    cases h
    simp
  | cons entry rest ih =>
    rw [List.foldlM_cons, bind_eq_ok] at h
    obtain ⟨next, hadd, h⟩ := h
    obtain ⟨wire, v, hwire, -, rfl⟩ := addComputed_eq_ok hadd
    rw [ih h, FieldMap.mem_keys_insert, List.exists_mem_cons_iff, hwire, Option.some_inj,
      or_left_comm, or_assoc, eq_comm]

theorem mergeRaw_append (before after : RawOptions) (m : FieldMap Value) :
    scope.mergeRaw skipUndefined (before ++ after) m = (do
      let m ← scope.mergeRaw skipUndefined before m
      scope.mergeRaw skipUndefined after m) := by
  induction before generalizing m with
  | nil => rfl
  | cons entry rest ih =>
    simp only [List.cons_append, OptionScope.mergeRaw, bind_assoc, ih]

/-- A property of the map that every raw option keeps is kept by all of them together. -/
theorem mergeRaw_preserves {P : FieldMap Value → Prop} {raw : RawOptions} {m m' : FieldMap Value}
    (step : ∀ entry ∈ raw, ∀ v, encodeExpression skipUndefined entry.2 = .ok v →
      ∀ m, P m → P (setPath v (Text.split '.' entry.1) m).1) (hm : P m)
    (h : scope.mergeRaw skipUndefined raw m = .ok m') : P m' := by
  induction raw generalizing m with
  | nil =>
    cases h
    exact hm
  | cons entry rest ih =>
    obtain ⟨hentry, hrest⟩ := List.forall_mem_cons.1 step
    obtain ⟨r, hr, h⟩ := bind_eq_ok.1 h
    obtain ⟨v, hv, rfl⟩ := applyRaw_eq_ok hr
    exact ih hrest (hentry v hv m hm) h

/-- What stands at a path is kept while the raw options are set at paths apart from it. -/
theorem mergeRaw_valueAt {raw : RawOptions} {m m' : FieldMap Value} {path : List String}
    (others : ∀ entry ∈ raw, Apart (Text.split '.' entry.1) path)
    (h : scope.mergeRaw skipUndefined raw m = .ok m') : valueAt path m' = valueAt path m := by
  refine mergeRaw_preserves (P := fun n => valueAt path n = valueAt path m) ?_ rfl h
  intro entry hentry v _ n hn
  rw [valueAt_setPath_of_apart v (others entry hentry), hn]

/-- A known option is kept while the paths of the raw options begin with other keys. -/
theorem mergeRaw_get? {raw : RawOptions} {m m' : FieldMap Value} {key : String}
    (others : ∀ entry ∈ raw, (Text.split '.' entry.1).head? ≠ some key)
    (h : scope.mergeRaw skipUndefined raw m = .ok m') : m'.get? key = m.get? key := by
  refine mergeRaw_preserves (P := fun n => n.get? key = m.get? key) ?_ rfl h
  intro entry hentry v _ n hn
  rw [get?_setPath_of_ne v (others entry hentry), hn]

theorem mergeRaw_keys {raw : RawOptions} {m m' : FieldMap Value}
    (h : scope.mergeRaw skipUndefined raw m = .ok m') (key : String) :
    key ∈ m'.keys ↔
      key ∈ m.keys ∨ ∃ entry ∈ raw, (Text.split '.' entry.1).head? = some key := by
  induction raw generalizing m with
  | nil =>
    cases h
    simp
  | cons entry rest ih =>
    obtain ⟨r, hr, h⟩ := bind_eq_ok.1 h
    obtain ⟨v, -, rfl⟩ := applyRaw_eq_ok hr
    rw [ih h, mem_keys_setPath, List.exists_mem_cons_iff, or_left_comm, or_assoc]

/-- A known option is found under its wire name, unless a later one has the same wire name. -/
theorem mergeComputed_found {before after : ComputedOptions} {name : String} {value : OptionValue}
    {m : FieldMap Value}
    (h : scope.mergeComputed skipUndefined (before ++ (name, value) :: after) = .ok m) :
    ∃ wire, scope.wireName? name = some wire ∧
      ((∀ later ∈ after, scope.wireName? later.1 ≠ some wire) →
        ∃ v, encodeOption skipUndefined value = .ok v ∧ m.get? wire = some v) := by
  rw [OptionScope.mergeComputed, List.foldlM_append] at h
  obtain ⟨earlier, -, h⟩ := bind_eq_ok.1 h
  rw [List.foldlM_cons, bind_eq_ok] at h
  obtain ⟨next, hadd, hafter⟩ := h
  obtain ⟨wire, v, hwire, hv, rfl⟩ := addComputed_eq_ok hadd
  refine ⟨wire, hwire, fun later => ⟨v, hv, ?_⟩⟩
  rw [foldlM_addComputed_get? later hafter, FieldMap.get?_insert, if_pos rfl]

/-- A raw option is found at its path, unless a later one is set at a path that is not apart. -/
theorem mergeRaw_found {before after : RawOptions} {key : String} {e : Expression}
    {m m' : FieldMap Value}
    (apart : ∀ later ∈ after, Apart (Text.split '.' later.1) (Text.split '.' key))
    (h : scope.mergeRaw skipUndefined (before ++ (key, e) :: after) m = .ok m') :
    ∃ v, encodeExpression skipUndefined e = .ok v ∧ valueAt (Text.split '.' key) m' = some v := by
  rw [mergeRaw_append] at h
  obtain ⟨earlier, -, h⟩ := bind_eq_ok.1 h
  obtain ⟨r, hr, hafter⟩ := bind_eq_ok.1 h
  obtain ⟨v, hv, rfl⟩ := applyRaw_eq_ok hr
  refine ⟨v, hv, ?_⟩
  rw [mergeRaw_valueAt apart hafter, valueAt_setPath v (Text.split_ne_nil '.' key)]

/-- **Raw options have the last word and touch nothing else.** In the options of a stage

* a raw option is found at its path, unless a later one is set at a path that begins with it or that
  it begins with;
* a known option is found under its wire name, unless the path of a raw option begins with that; of
  two settings of one option the later counts;
* the outer keys are the wire names of the known options that are set and the first keys of the raw
  options. -/
theorem merge_keeps_last {computed : ComputedOptions} {raw : RawOptions} {m : FieldMap Value}
    (merged : scope.merge skipUndefined computed raw = .ok m) :
    (∀ before key e after, raw = before ++ (key, e) :: after →
      (∀ later ∈ after, ¬Text.split '.' later.1 <+: Text.split '.' key ∧
        ¬Text.split '.' key <+: Text.split '.' later.1) →
      ∃ v, encodeExpression skipUndefined e = .ok v ∧ valueAt (Text.split '.' key) m = some v) ∧
    (∀ before name value after, computed = before ++ (name, value) :: after →
      ∃ wire, scope.wireName? name = some wire ∧
        ((∀ later ∈ after, scope.wireName? later.1 ≠ some wire) →
          (∀ entry ∈ raw, (Text.split '.' entry.1).head? ≠ some wire) →
          ∃ v, encodeOption skipUndefined value = .ok v ∧ m.get? wire = some v)) ∧
    ∀ key, key ∈ m.keys ↔
      (∃ entry ∈ computed, scope.wireName? entry.1 = some key) ∨
        ∃ entry ∈ raw, (Text.split '.' entry.1).head? = some key := by
  obtain ⟨known, hknown, hraw⟩ := bind_eq_ok.1 merged
  refine ⟨?_, ?_, ?_⟩
  · rintro before key e after rfl apart
    exact mergeRaw_found apart hraw
  · rintro before name value after rfl
    obtain ⟨wire, hwire, kept⟩ := mergeComputed_found hknown
    refine ⟨wire, hwire, fun later untouched => ?_⟩
    rw [mergeRaw_get? untouched hraw]
    exact kept later
  · intro key
    rw [mergeRaw_keys hraw, foldlM_addComputed_keys hknown]
    simp [FieldMap.keys]

/-- The options of a search: one is kept, one overridden, and two are nested under a key that no
known option has. -/
theorem nearest_options_keep_last :
    ∃ m, OptionScope.merge
        ⟨"find_nearest",
          [⟨"limit", "limit", .integer⟩, ⟨"distanceField", "distance_field", .fieldReference⟩]⟩
        false [("limit", .integer 3), ("distanceField", .field ⟨"far"⟩)]
        [("hints.index", .constant (.string "ix")), ("distance_field", .field ⟨"near"⟩),
          ("hints.scan", .constant (.boolean true))] = .ok m ∧
      valueAt ["hints", "index"] m = some (.string "ix") ∧
      m.get? "limit" = some (.integer 3) ∧ "hints" ∈ m.keys := by
  have merged : OptionScope.merge
      ⟨"find_nearest",
        [⟨"limit", "limit", .integer⟩, ⟨"distanceField", "distance_field", .fieldReference⟩]⟩
      false [("limit", .integer 3), ("distanceField", .field ⟨"far"⟩)]
      [("hints.index", .constant (.string "ix")), ("distance_field", .field ⟨"near"⟩),
        ("hints.scan", .constant (.boolean true))] =
      .ok [("distance_field", .field "near"),
        ("hints", .map [("index", .string "ix"), ("scan", .boolean true)]),
        ("limit", .integer 3)] := rfl
  obtain ⟨raw, known, keys⟩ := merge_keeps_last merged
  refine ⟨_, merged, ?_, ?_, ?_⟩
  · obtain ⟨v, hv, found⟩ := raw [] _ _ _ rfl (by decide)
    cases hv
    exact found
  · obtain ⟨wire, hwire, kept⟩ := known [] _ _ _ rfl
    cases hwire
    obtain ⟨v, hv, found⟩ := kept (by decide) (by decide)
    cases hv
    exact found
  · exact (keys "hints").2 (.inr ⟨_, List.mem_cons_self, by decide⟩)

/-! ## The options that a stage sets -/

/-- No two options that a stage sets have the same wire name. -/
theorem computedOptions_apart (body : StageBody) :
    body.computedOptions.Pairwise fun entry later =>
      (optionScope body).wireName? later.1 ≠ (optionScope body).wireName? entry.1 := by
  cases body with
  | findNearest search =>
    obtain ⟨field, vector, measure, limit, distanceField⟩ := search
    cases limit <;> cases distanceField <;>
      simp [StageBody.computedOptions, StageBody.knownOptions, optionScope, OptionScope.wireName?]
  | collection _ index | collectionGroup _ index | unnest _ _ index =>
    cases index <;> simp [StageBody.computedOptions]
  | _ => exact .nil

/-- **An option that a stage sets** is found under its wire name, unless the path of a raw option
begins with that. -/
theorem computedOption_found {body : StageBody} {raw : RawOptions} {m : FieldMap Value}
    (merged : (optionScope body).merge skipUndefined body.computedOptions raw = .ok m)
    {name : String} {value : OptionValue} (set : (name, value) ∈ body.computedOptions) :
    ∃ wire, (optionScope body).wireName? name = some wire ∧
      ((∀ entry ∈ raw, (Text.split '.' entry.1).head? ≠ some wire) →
        ∃ v, encodeOption skipUndefined value = .ok v ∧ m.get? wire = some v) := by
  obtain ⟨known, hknown, hraw⟩ := bind_eq_ok.1 merged
  obtain ⟨before, after, parts⟩ := List.append_of_mem set
  have apart := computedOptions_apart body
  rw [parts] at hknown apart
  obtain ⟨wire, hwire, found⟩ := mergeComputed_found hknown
  refine ⟨wire, hwire, fun untouched => ?_⟩
  rw [mergeRaw_get? untouched hraw]
  refine found fun later hlater => ?_
  rw [← hwire]
  exact (List.pairwise_cons.1 (List.pairwise_append.1 apart).2.1).1 later hlater

/-! ## The order of raw options -/

/-- Raw options that do not come in each other's way: the path of neither begins with that of the
other. -/
def Independent (a b : String × Expression) : Prop :=
  Apart (Text.split '.' a.1) (Text.split '.' b.1)

theorem Independent.symm {a b : String × Expression} (h : Independent a b) : Independent b a :=
  Apart.symm h

theorem mergeRaw_cons (entry : String × Expression) (rest : RawOptions) (m : FieldMap Value) :
    scope.mergeRaw skipUndefined (entry :: rest) m = (do
      let r ← scope.applyRaw skipUndefined m entry.1 entry.2
      scope.mergeRaw skipUndefined rest r.1) := rfl

/-- Two raw options that are independent may change places. -/
theorem mergeRaw_swap {a b : String × Expression} (independent : Independent a b)
    (rest : RawOptions) (m : FieldMap Value) :
    (scope.mergeRaw skipUndefined (a :: b :: rest) m).toOption =
      (scope.mergeRaw skipUndefined (b :: a :: rest) m).toOption := by
  simp only [mergeRaw_cons]
  obtain ⟨err, aFails⟩ | ⟨v, -, aSets⟩ := applyRaw_cases scope skipUndefined a.1 a.2 <;>
  obtain ⟨err', bFails⟩ | ⟨w, -, bSets⟩ := applyRaw_cases scope skipUndefined b.1 b.2
  · simp only [aFails, bFails, error_bind]
    rfl
  · simp only [aFails, bSets, error_bind, ok_bind]
  · simp only [aSets, bFails, error_bind, ok_bind]
  · simp only [aSets, bSets, ok_bind]
    rw [setPath_comm v w independent m]

theorem mergeRaw_perm {raw raw' : RawOptions} (perm : raw.Perm raw')
    (independent : raw.Pairwise Independent) (m : FieldMap Value) :
    (scope.mergeRaw skipUndefined raw m).toOption =
      (scope.mergeRaw skipUndefined raw' m).toOption := by
  induction perm generalizing m with
  | nil => rfl
  | cons entry _ ih =>
    obtain ⟨-, independent⟩ := List.pairwise_cons.1 independent
    simp only [mergeRaw_cons]
    obtain ⟨err, fails⟩ | ⟨v, -, sets⟩ := applyRaw_cases scope skipUndefined entry.1 entry.2
    · simp only [fails, error_bind]
    · simp only [sets, ok_bind]
      exact ih independent _
  | swap a b rest =>
    have both : Independent b a := List.rel_of_pairwise_cons independent List.mem_cons_self
    exact mergeRaw_swap both rest m
  | trans first _ ih ih' =>
    rw [ih independent m]
    exact ih' ((first.pairwise_iff Independent.symm).1 independent) m

/-- **Independent raw options may be given in any order.** If the path of none of them begins with
that of another, the options of a stage come out the same, or there are none, in whatever order the
raw options are laid over the known ones. -/
theorem merge_perm {computed : ComputedOptions} {raw raw' : RawOptions} (perm : raw.Perm raw')
    (independent : raw.Pairwise Independent) :
    (scope.merge skipUndefined computed raw).toOption =
      (scope.merge skipUndefined computed raw').toOption := by
  rw [OptionScope.merge, OptionScope.merge]
  cases scope.mergeComputed skipUndefined computed with
  | error err => rfl
  | ok known => exact mergeRaw_perm perm independent known

/-- A stage with one option. -/
def limitScope : OptionScope := ⟨"find_nearest", [⟨"limit", "limit", .integer⟩]⟩

/-- Raw options that make a map of a limit. -/
def limitBounds : RawOptions :=
  [("limit.max", .constant (.integer 9)), ("limit.min.hard", .constant (.integer 1)),
    ("limit.min.soft", .constant (.integer 2))]

theorem limitBounds_in_any_order :
    ∃ m, limitScope.merge false [("limit", .integer 3)] limitBounds = .ok m ∧
      limitScope.merge false [("limit", .integer 3)] limitBounds.reverse = .ok m := by
  have merged : limitScope.merge false [("limit", .integer 3)] limitBounds =
      .ok [("limit", .map [("max", .integer 9),
        ("min", .map [("hard", .integer 1), ("soft", .integer 2)])])] := rfl
  have independent : limitBounds.Pairwise Independent := by
    unfold Independent Apart
    decide
  have same : (limitScope.merge false [("limit", .integer 3)] limitBounds).toOption =
      (limitScope.merge false [("limit", .integer 3)] limitBounds.reverse).toOption :=
    merge_perm (List.reverse_perm limitBounds).symm independent
  rw [merged] at same
  exact ⟨_, merged, toOption_eq_some.1 same.symm⟩

end
end DocumentPipeline.Encoding
