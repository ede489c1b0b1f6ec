import DocumentPipeline.Proofs.OptionMerging

/-!
# What a merge reports

A merge says of every raw option whether it replaced a value. It looks only at the end of the path
for that: a value that has to make room for a map on the way is lost, and not reported.

* `Discards`, `Displaces`: setting a value at a path discards one that stands at its end or, if it
  is no map, on the way there;
* `setPath_replaced`: what the flag of `setPath` says;
* `valueAt_setPath_of_not_discards`: where nothing is discarded, nothing is lost;
* `overrides_at`: the reports are about the options in their order, each with the options merged
  before it;
* `overrides_truthful_iff`: the report on an option is truthful just when nothing has to make room
  for it.
-/

namespace DocumentPipeline.Encoding

open Wire (Value)

/-- Something other than a map stands where the path goes on. -/
def Displaces (path : List String) (m : FieldMap Value) : Prop :=
  ∃ first, first <+: path ∧ first ≠ path ∧
    ∃ v, valueAt first m = some v ∧ ∀ fields, v ≠ .map fields

/-- Setting a value at the path does away with one that was there before: a value at the end of the
path, or one other than a map on the way. -/
def Discards (path : List String) (m : FieldMap Value) : Prop :=
  (∃ v, valueAt path m = some v) ∨ Displaces path m

/-! ## Setting one value -/

/-- Looking along a path is looking along its parts, one after the other. -/
theorem valueAt_append {first rest : List String} (before : first ≠ []) (more : rest ≠ [])
    (m : FieldMap Value) :
    valueAt (first ++ rest) m = valueAt rest (fieldsOf (valueAt first m)) := by
  induction first generalizing m with
  | nil => exact absurd rfl before
  | cons key first ih =>
    cases first with
    | nil => exact valueAt_cons more m
    | cons next first =>
      rw [List.cons_append, valueAt_cons (by simp), valueAt_cons (List.cons_ne_nil _ _)]
      exact ih (List.cons_ne_nil _ _) _

/-- What stands on the way to a value is a map. -/
theorem isMap_of_valueAt {first rest : List String} (before : first ≠ []) (more : rest ≠ [])
    {m : FieldMap Value} {v : Value} (found : valueAt (first ++ rest) m = some v) :
    ∃ fields, valueAt first m = some (.map fields) := by
  by_contra none
  have notMap : ∀ fields, valueAt first m ≠ some (.map fields) :=
    fun fields isMap => none ⟨fields, isMap⟩
  rw [valueAt_append before more, fieldsOf_of_not_map notMap, valueAt_nil] at found
  cases found

/-- **The flag says whether a value stood at the end of the path.** -/
theorem setPath_replaced (value : Value) (path : List String) (m : FieldMap Value) :
    (setPath value path m).2 = (valueAt path m).isSome := by
  induction path generalizing m with
  | nil => rfl
  | cons key rest ih =>
    cases rest with
    | nil => rfl
    | cons next rest =>
      rw [valueAt_cons (List.cons_ne_nil _ _)]
      exact ih _

/-- Where something has to make room, nothing stands at the end of the path. -/
theorem Displaces.valueAt_eq_none {path : List String} {m : FieldMap Value}
    (h : Displaces path m) : valueAt path m = none := by
  obtain ⟨first, ⟨rest, rfl⟩, shorter, v, found, notMap⟩ := h
  have before : first ≠ [] := by
    rintro rfl
    cases found
  have more : rest ≠ [] := by
    rintro rfl
    exact shorter (List.append_nil first).symm
  by_contra occupied
  obtain ⟨w, inner⟩ := Option.ne_none_iff_exists'.1 occupied
  obtain ⟨fields, isMap⟩ := isMap_of_valueAt before more inner
  rw [found] at isMap
  cases isMap
  exact notMap fields rfl

/-- **Where nothing is discarded, nothing is lost:** every value other than a map stays in its
place. -/
theorem valueAt_setPath_of_not_discards (value : Value) {path other : List String}
    (nonempty : path ≠ []) {m : FieldMap Value} (h : ¬Discards path m) {v : Value}
    (found : valueAt other m = some v) (notMap : ∀ fields, v ≠ .map fields) :
    valueAt other (setPath value path m).1 = some v := by
  have apart : Apart path other := by
    constructor
    · rintro ⟨rest, rfl⟩
      by_cases more : rest = []
      · rw [more, List.append_nil] at found
        exact h (.inl ⟨v, found⟩)
      · obtain ⟨fields, isMap⟩ := isMap_of_valueAt nonempty more found
        exact h (.inl ⟨_, isMap⟩)
    · intro leads
      by_cases same : other = path
      · exact h (.inl ⟨v, same ▸ found⟩)
      · exact h (.inr ⟨other, leads, same, v, found, notMap⟩)
  rw [valueAt_setPath_of_apart value apart, found]

/-! ## Reports of a merge -/

section
variable {skipUndefined : Bool} {scope : OptionScope}

/-- The flag of an option that was applied. -/
theorem applyRaw_replaced {m : FieldMap Value} {key : String} {e : Expression}
    {r : FieldMap Value × Bool} (applied : scope.applyRaw skipUndefined m key e = .ok r) :
    r.2 = (valueAt (Text.split '.' key) m).isSome := by
  obtain ⟨v, -, rfl⟩ := applyRaw_eq_ok applied
  exact setPath_replaced v _ m

/-- One report for each raw option that was applied, in their order. -/
theorem rawOverrides_append {before : RawOptions} (after : RawOptions) {m m' : FieldMap Value}
    (merged : scope.mergeRaw skipUndefined before m = .ok m') :
    ∃ earlier, earlier.length = before.length ∧
      scope.rawOverrides skipUndefined (before ++ after) m =
        earlier ++ scope.rawOverrides skipUndefined after m' := by
  induction before generalizing m with
  | nil =>
    cases merged
    exact ⟨[], rfl, rfl⟩
  | cons entry rest ih =>
    obtain ⟨r, applied, merged⟩ := bind_eq_ok.1 merged
    obtain ⟨earlier, length, reports⟩ := ih merged
    refine ⟨⟨scope.stage, entry.1, r.2⟩ :: earlier, congrArg (· + 1) length, ?_⟩
    rw [List.cons_append, OptionScope.rawOverrides, applied]
    exact congrArg (_ :: ·) reports

/-- **The report on a raw option** comes after one for each option before it, and says whether a
value stood at the end of its path among the options merged so far. -/
theorem overrides_at {computed : ComputedOptions} {before : RawOptions} (after : RawOptions)
    {key : String} {e : Expression} {m : FieldMap Value} {r : FieldMap Value × Bool}
    (merged : scope.merge skipUndefined computed before = .ok m)
    (applied : scope.applyRaw skipUndefined m key e = .ok r) :
    (scope.overrides skipUndefined computed (before ++ (key, e) :: after))[before.length]? =
      some ⟨scope.stage, key, (valueAt (Text.split '.' key) m).isSome⟩ := by
  obtain ⟨known, hknown, hbefore⟩ := bind_eq_ok.1 merged
  obtain ⟨earlier, length, reports⟩ := rawOverrides_append ((key, e) :: after) hbefore
  rw [OptionScope.overrides, hknown]
  simp only [reports, ← length]
  rw [List.getElem?_append_right (Nat.le_refl _), Nat.sub_self, OptionScope.rawOverrides, applied,
    List.getElem?_cons_zero, applyRaw_replaced applied]

/-- **The report on a raw option is truthful** just when nothing has to make room for it. It says
that a value was replaced if one stood at the end of the path; of a value on the way that had to
become a map it says nothing. -/
theorem overrides_truthful_iff {computed : ComputedOptions} {before : RawOptions}
    (after : RawOptions) {key : String} {e : Expression} {m : FieldMap Value}
    {r : FieldMap Value × Bool}
    (merged : scope.merge skipUndefined computed before = .ok m)
    (applied : scope.applyRaw skipUndefined m key e = .ok r) :
    ∃ replaced,
      (scope.overrides skipUndefined computed (before ++ (key, e) :: after))[before.length]? =
        some ⟨scope.stage, key, replaced⟩ ∧
      ((replaced = true ↔ Discards (Text.split '.' key) m) ↔
        ¬Displaces (Text.split '.' key) m) := by
  refine ⟨_, overrides_at after merged applied, ?_⟩
  rw [Option.isSome_iff_exists]
  constructor
  · intro truthful displaced
    obtain ⟨v, found⟩ := truthful.2 (.inr displaced)
    rw [displaced.valueAt_eq_none] at found
    cases found
  · intro undisturbed
    exact ⟨.inl, fun discards => discards.resolve_right undisturbed⟩

/-- A hint is replaced in a map of hints, and reported. -/
theorem hint_override_reported :
    ∃ m, limitScope.merge false [("limit", .integer 3)]
        [("hints", .constant (.map [("index", .string "old")]))] = .ok m ∧
      (limitScope.overrides false [("limit", .integer 3)]
        [("hints", .constant (.map [("index", .string "old")])),
          ("hints.index", .constant (.string "new"))])[1]? =
        some ⟨"find_nearest", "hints.index", true⟩ ∧
      Discards ["hints", "index"] m := by
  have merged : limitScope.merge false [("limit", .integer 3)]
      [("hints", .constant (.map [("index", .string "old")]))] =
      .ok [("hints", .map [("index", .string "old")]), ("limit", .integer 3)] := rfl
  have applied : limitScope.applyRaw false
      [("hints", .map [("index", .string "old")]), ("limit", .integer 3)] "hints.index"
      (.constant (.string "new")) =
      .ok ([("hints", .map [("index", .string "new")]), ("limit", .integer 3)], true) := rfl
  obtain ⟨replaced, report, truthful⟩ := overrides_truthful_iff [] merged applied
  have undisturbed : ¬Displaces ["hints", "index"]
      [("hints", .map [("index", .string "old")]), ("limit", .integer 3)] := by
    intro displaced
    cases displaced.valueAt_eq_none
  cases report
  exact ⟨_, merged, rfl, (truthful.2 undisturbed).1 rfl⟩

/-- A limit that has to become a map is lost, and not reported. -/
theorem not_overrides_truthful :
    ¬∀ (scope : OptionScope) (skipUndefined : Bool) (computed : ComputedOptions)
        (before after : RawOptions) (key : String) (e : Expression) (m : FieldMap Value)
        (r : FieldMap Value × Bool),
      scope.merge skipUndefined computed before = .ok m →
        scope.applyRaw skipUndefined m key e = .ok r →
          ∃ replaced,
            (scope.overrides skipUndefined computed (before ++ (key, e) :: after))[before.length]? =
              some ⟨scope.stage, key, replaced⟩ ∧
            (replaced = true ↔ Discards (Text.split '.' key) m) := by
  intro claim
  obtain ⟨replaced, report, truthful⟩ := claim limitScope false [("limit", .integer 3)] [] []
    "limit.max" (.constant (.integer 1)) [("limit", .integer 3)] _ rfl rfl
  have displaced : Displaces ["limit", "max"] [("limit", .integer 3)] :=
    ⟨["limit"], by decide, by decide, .integer 3, rfl, nofun⟩
  cases report
  exact absurd (truthful.2 (.inr displaced)) (by decide)

end
end DocumentPipeline.Encoding
