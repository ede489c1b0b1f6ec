import DocumentPipeline.Encoding.Options
import DocumentPipeline.Proofs.SortedMaps

/-!
# Values at paths in nested maps

Setting a value at a path of keys and looking one up:

* `valueAt_setPath`: what was set at a path is found there;
* `valueAt_setPath_of_apart`: setting a value changes nothing at a path that neither leads to it nor
  goes on from it;
* `setPath_comm`: values at two such paths may be set in either order;
* `get?_setPath_of_ne`, `mem_keys_setPath`: of the keys of the outer map, only the first of the path
  is touched.
-/

namespace DocumentPipeline

theorem FieldMap.mem_keys_insert {α : Type} {m : FieldMap α} {key other : String} {value : α} :
    other ∈ (m.insert key value).keys ↔ other = key ∨ other ∈ m.keys := by
  induction m with
  | nil => simp [insert, keys]
  | cons entry rest ih =>
    obtain ⟨k, v⟩ := entry
    simp only [insert, keys] at ih ⊢
    split
    · simp
    · split
      · next same => simp [same]
      · simp only [List.map_cons, List.mem_cons, ih]
        exact or_left_comm

namespace Encoding

open Wire (Value)

/-- The value at a path of keys. Each key but the last has to lead to a map. -/
def valueAt : List String → FieldMap Value → Option Value
  | [], _ => none
  | [key], m => m.get? key
  | key :: rest, m =>
    match m.get? key with
    | some (.map fields) => valueAt rest fields
    | _ => none

/-- Two paths of which neither begins with the other. -/
def Apart (path other : List String) : Prop := ¬path <+: other ∧ ¬other <+: path

theorem Apart.symm {path other : List String} (h : Apart path other) : Apart other path :=
  ⟨h.2, h.1⟩

theorem Apart.ne_nil {path other : List String} (h : Apart path other) : path ≠ [] := by
  rintro rfl
  exact h.1 List.nil_prefix

theorem apart_cons {key key' : String} {rest rest' : List String} :
    Apart (key :: rest) (key' :: rest') ↔ key = key' → Apart rest rest' := by
  simp only [Apart, List.cons_prefix_cons]
  by_cases same : key = key'
  · simp [same]
  · simp [same, Ne.symm same]

theorem valueAt_nil (path : List String) : valueAt path [] = none := by
  cases path with
  | nil => rfl
  | cons key rest => cases rest <;> rfl

theorem fieldsOf_of_not_map {found : Option Value} (notMap : ∀ fields, found ≠ some (.map fields)) :
    fieldsOf found = [] := by
  cases found with
  | none => rfl
  | some v =>
    cases v with
    | map fields => exact absurd rfl (notMap fields)
    | _ => rfl

/-- Where something other than a map stands, looking further is like looking into an empty map. -/
theorem valueAt_cons {key : String} {rest : List String} (more : rest ≠ []) (m : FieldMap Value) :
    valueAt (key :: rest) m = valueAt rest (fieldsOf (m.get? key)) := by
  obtain ⟨next, rest, rfl⟩ := List.exists_cons_of_ne_nil more
  simp only [valueAt]
  split
  · next fields found => rw [found, fieldsOf]
  · next notMap => rw [fieldsOf_of_not_map notMap, valueAt_nil]

/-- What stands under the first key of a path after a value was set at the path, given the rest of
the path and what stood there before. -/
def placed (value : Value) : List String → Option Value → Value
  | [], _ => value
  | rest, old => .map (setPath value rest (fieldsOf old)).1

/-- What setting a value at a path does to the outer map: it puts something under the first key. -/
theorem setPath_cons (value : Value) (key : String) (rest : List String) (m : FieldMap Value) :
    (setPath value (key :: rest) m).1 = m.insert key (placed value rest (m.get? key)) := by
  cases rest <;> rfl

/-- **What was set is found.** -/
theorem valueAt_setPath (value : Value) {path : List String} (nonempty : path ≠ [])
    (m : FieldMap Value) : valueAt path (setPath value path m).1 = some value := by
  induction path generalizing m with
  | nil => exact absurd rfl nonempty
  | cons key rest ih =>
    cases rest with
    | nil => simp only [setPath, valueAt, FieldMap.get?_insert, if_true]
    | cons next rest =>
      simp only [setPath, valueAt, FieldMap.get?_insert, if_true]
      exact ih (List.cons_ne_nil _ _) _

/-- **Nothing else changes:** what stands at a path apart from the one that is set stays there. -/
theorem valueAt_setPath_of_apart (value : Value) {path other : List String}
    (apart : Apart path other) (m : FieldMap Value) :
    valueAt other (setPath value path m).1 = valueAt other m := by
  induction path generalizing other m with
  | nil => rfl
  | cons key rest ih =>
    obtain ⟨key', rest', rfl⟩ := List.exists_cons_of_ne_nil apart.symm.ne_nil
    by_cases same : key = key'
    · subst same
      have inner : Apart rest rest' := apart_cons.1 apart rfl
      obtain ⟨next, rest, rfl⟩ := List.exists_cons_of_ne_nil inner.ne_nil
      rw [valueAt_cons inner.symm.ne_nil, valueAt_cons inner.symm.ne_nil]
      simp only [setPath, FieldMap.get?_insert, if_true]
      exact ih inner _
    · have kept : ((setPath value (key :: rest) m).1).get? key' = m.get? key' := by
        rw [setPath_cons, FieldMap.get?_insert, if_neg same]
      cases rest' with
      | nil => exact kept
      | cons next' rest' => simp only [valueAt, kept]

/-- **Values at paths apart may be set in either order**, whatever stood there and on the way. -/
theorem setPath_comm (value new : Value) {path other : List String} (apart : Apart path other)
    (m : FieldMap Value) :
    (setPath new other (setPath value path m).1).1 =
      (setPath value path (setPath new other m).1).1 := by
  induction path generalizing other m with
  | nil => rfl
  | cons key rest ih =>
    obtain ⟨key', rest', rfl⟩ := List.exists_cons_of_ne_nil apart.symm.ne_nil
    by_cases same : key = key'
    · subst same
      have inner : Apart rest rest' := apart_cons.1 apart rfl
      obtain ⟨next, rest, rfl⟩ := List.exists_cons_of_ne_nil inner.ne_nil
      obtain ⟨next', rest', rfl⟩ := List.exists_cons_of_ne_nil inner.symm.ne_nil
      simp only [setPath_cons, FieldMap.get?_insert, if_true, FieldMap.insert_insert]
      -- Both values are set in the map under the key that the paths share.
      exact congrArg (fun fields => m.insert key (.map fields)) (ih inner (fieldsOf (m.get? key)))
    · simp only [setPath_cons, FieldMap.get?_insert, if_neg same, if_neg (Ne.symm same)]
      exact FieldMap.insert_comm m same _ _

theorem get?_setPath_of_ne (value : Value) {path : List String} {key : String}
    (differs : path.head? ≠ some key) (m : FieldMap Value) :
    ((setPath value path m).1).get? key = m.get? key := by
  cases path with
  | nil => rfl
  | cons first rest =>
    have differs : first ≠ key := fun same => differs (congrArg some same)
    rw [setPath_cons, FieldMap.get?_insert, if_neg differs]

theorem mem_keys_setPath (value : Value) {path : List String} {m : FieldMap Value} {key : String} :
    key ∈ FieldMap.keys (setPath value path m).1 ↔ path.head? = some key ∨ key ∈ m.keys := by
  cases path with
  | nil => simp [setPath]
  | cons first rest =>
    rw [setPath_cons, FieldMap.mem_keys_insert, List.head?_cons, Option.some_inj, eq_comm]

end Encoding
end DocumentPipeline
