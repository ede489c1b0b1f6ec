import DocumentPipeline.Proofs.Paths
import DocumentPipeline.Proofs.ValueViews
import DocumentPipeline.Row

/-!
# Fields of a row and members of its JSON

The field at a dotted path is found in the row itself, and what is found is seen as plain JSON. The row
as a whole can be seen as plain JSON first, and the path be followed there.

* `Json.Reaches`, `Json.FallsOff`: where names lead through the objects of a JSON value;
* `Wire.Value.Recast`: values with parts that are seen in another shape, places on earth and vectors;
* `Row.Agree`: looking a path up in a value and following it through what is seen of the value;
* `Row.get?_follows_data`: the two agree unless the path goes on below a value of another shape.
-/

namespace DocumentPipeline

namespace Json

/-- Names lead through the objects of a JSON value to another. -/
inductive Reaches : Json → List String → Json → Prop where
  | here (j : Json) : Reaches j [] j
  | member {members : FieldMap Json} {name : String} {next target : Json} {rest : List String} :
      members.get? name = some next → Reaches next rest target →
      Reaches (.object members) (name :: rest) target

/-- Names lead nowhere: one of them is missing, or is to be looked up in what is no object. -/
inductive FallsOff : Json → List String → Prop where
  | missing {members : FieldMap Json} {name : String} {rest : List String} :
      members.get? name = none → FallsOff (.object members) (name :: rest)
  | noObject {j : Json} {name : String} {rest : List String} : (∀ members, j ≠ .object members) →
      FallsOff j (name :: rest)
  | member {members : FieldMap Json} {name : String} {next : Json} {rest : List String} :
      members.get? name = some next → FallsOff next rest →
      FallsOff (.object members) (name :: rest)

section
variable {j target : Json} {members : FieldMap Json} {name : String} {rest : List String}

theorem reaches_nil : Reaches j [] target ↔ j = target := by
  constructor
  · rintro ⟨⟩
    rfl
  · rintro rfl
    exact .here j

theorem not_fallsOff_nil : ¬FallsOff j [] := nofun

theorem reaches_member :
    Reaches (.object members) (name :: rest) target ↔
      ∃ next, members.get? name = some next ∧ Reaches next rest target := by
  constructor
  · rintro ⟨⟩
    exact ⟨_, ‹_›, ‹_›⟩
  · rintro ⟨next, found, reaches⟩
    exact .member found reaches

theorem fallsOff_member :
    FallsOff (.object members) (name :: rest) ↔
      ∀ next, members.get? name = some next → FallsOff next rest := by
  constructor
  · intro falls next found
    cases falls with
    | missing missing => cases missing.symm.trans found
    | noObject noObject => exact absurd rfl (noObject members)
    | member found' falls =>
      cases found.symm.trans found'
      exact falls
  · intro later
    cases found : members.get? name with
    | none => exact .missing found
    | some next => exact .member found (later next found)

theorem not_reaches_of_no_object (noObject : ∀ members, j ≠ .object members) :
    ¬Reaches j (name :: rest) target := by
  rintro ⟨⟩
  exact noObject _ rfl

end

end Json

namespace Wire

/-- A value with parts that is seen in another shape: a place on earth, which is no map, is seen as an
object, and a map that is a vector is seen as an array. -/
def Value.Recast : Value → Prop
  | .geoPoint _ => True
  | .map fields => (vectorNumbers? fields).isSome = true
  | _ => False

/-- What is seen of a value of no other shape is an object just when it is a map. -/
theorem Value.view_of_not_recast {v : Value} (same : ¬v.Recast) :
    (∃ fields, v = .map fields ∧ v.view = .object (fieldsView fields)) ∨
      v.map? = none ∧ ∀ members, v.view ≠ .object members := by
  cases v with
  | map fields =>
    refine .inl ⟨fields, rfl, ?_⟩
    rw [view]
    rw [Recast] at same
    cases numbers : vectorNumbers? fields with
    | none => rfl
    | some numbers' => simp [numbers] at same
  | geoPoint p => exact absurd trivial same
  | double x =>
    refine .inr ⟨rfl, fun members => ?_⟩
    rw [view, Json.ofDouble]
    split <;> simp
  | integer n => exact .inr ⟨rfl, fun members => by simp [view, Json.ofInt64]⟩
  | _ => exact .inr ⟨rfl, fun members => by simp [view]⟩

end Wire

open Wire (Value)

namespace Row

/-- Looking keys up in a value gives what is seen where the keys lead through a JSON value, and
nothing just when they lead nowhere there. -/
structure Agree (v : Value) (keys : List String) (j : Json) : Prop where
  reaches (target : Json) : (follow v keys).map (·.view) = some target ↔ j.Reaches keys target
  fallsOff : follow v keys = none ↔ j.FallsOff keys

section
variable {v : Value} {key : String} {rest : List String}

theorem follow_map (fields : FieldMap Value) :
    follow (.map fields) (key :: rest) = (fields.get? key).bind (follow · rest) := by
  rw [follow]
  rfl

theorem follow_of_no_map (noMap : v.map? = none) : follow v (key :: rest) = none := by
  rw [follow, noMap]
  rfl

theorem agree_here (v : Value) : Agree v [] v.view where
  reaches target := by rw [follow, Option.map_some, Option.some_inj, Json.reaches_nil]
  fallsOff := iff_of_false nofun Json.not_fallsOff_nil

/-- A step into a map is a step into the object that is seen of its fields. -/
theorem agree_fields {fields : FieldMap Value}
    (deeper : ∀ v, fields.get? key = some v → Agree v rest v.view) :
    Agree (.map fields) (key :: rest) (.object (Wire.fieldsView fields)) := by
  constructor
  · intro target
    rw [follow_map, Json.reaches_member, Wire.get?_fieldsView]
    cases found : fields.get? key with
    | none => simp
    | some v => simpa using (deeper v found).reaches target
  · rw [follow_map, Json.fallsOff_member, Wire.get?_fieldsView]
    cases found : fields.get? key with
    | none => simp
    | some v => simpa using (deeper v found).fallsOff

/-- There is no step into what is neither a map nor seen as an object. -/
theorem agree_of_no_map {j : Json} (noMap : v.map? = none)
    (noObject : ∀ members, j ≠ .object members) : Agree v (key :: rest) j where
  reaches target := by
    rw [follow_of_no_map noMap]
    exact iff_of_false nofun (Json.not_reaches_of_no_object noObject)
  fallsOff := iff_of_true (follow_of_no_map noMap) (.noObject noObject)

end

/-- **Keys lead alike** through a value and through what is seen of it, if they pass no value that is
seen in another shape. -/
theorem agree_view {v : Value} {keys : List String}
    (straight : ∀ first later u, later ≠ [] → keys = first ++ later → follow v first = some u →
      ¬u.Recast) : Agree v keys v.view := by
  induction keys generalizing v with
  | nil => exact agree_here v
  | cons key rest ih =>
    have same : ¬v.Recast := straight [] (key :: rest) v (List.cons_ne_nil _ _) rfl rfl
    obtain ⟨fields, rfl, seen⟩ | ⟨noMap, noObject⟩ := Value.view_of_not_recast same
    · rw [seen]
      refine agree_fields fun v found => ih fun first later u nonempty cut there => ?_
      refine straight (key :: first) later u nonempty (congrArg (key :: ·) cut) ?_
      rw [follow_map, found]
      exact there
    · exact agree_of_no_map noMap noObject

/-- Before the end of the keys they lead to no value of a row that is seen in another shape. -/
def Straight (r : Row) (keys : List String) : Prop :=
  ∀ first later v, first ≠ [] → later ≠ [] → keys = first ++ later →
    follow (.map r.fields) first = some v → ¬v.Recast

/-- **The field at a dotted path** is what the path leads to in the JSON of the row, and there is none
just when it leads nowhere there. -/
theorem get?_follows_data (r : Row) (path : String) (straight : r.Straight (Text.split '.' path)) :
    (∀ j, r.get? path = some j ↔ r.data.Reaches (Text.split '.' path) j) ∧
      (r.get? path = none ↔ r.data.FallsOff (Text.split '.' path)) := by
  rw [get?, Option.map_eq_none_iff]
  obtain ⟨key, rest, cut⟩ := List.exists_cons_of_ne_nil (Text.split_ne_nil '.' path)
  rw [cut] at straight ⊢
  -- The row itself is seen as an object, also when its fields look like a vector.
  have agree : Agree (.map r.fields) (key :: rest) r.data := by
    refine agree_fields fun v found => agree_view fun first later u nonempty same there => ?_
    refine straight (key :: first) later u (List.cons_ne_nil _ _) nonempty ?_ ?_
    · rw [same, List.cons_append]
    · rw [follow_map, found]
      exact there
  exact ⟨agree.reaches, agree.fallsOff⟩

/-- A book whose author has a name by the empty key, with a place and a vector in it. -/
def atlas : Row where
  reference := none
  fields := [("author", .map [("", .map [("at", .geoPoint ⟨⟨0⟩, ⟨0⟩⟩),
    ("embedding", .vector [⟨0x3ff0000000000000⟩])])])]
  createTime := none
  updateTime := none
  executionTime := none

theorem atlas_embedding_reached :
    atlas.Straight (Text.split '.' "author..embedding") ∧
      atlas.data.Reaches (Text.split '.' "author..embedding")
        (.array [.double ⟨0x3ff0000000000000⟩]) := by
  have cut : Text.split '.' "author..embedding" = ["author", "", "embedding"] := by decide
  have straight : atlas.Straight (Text.split '.' "author..embedding") := by
    rw [cut]
    rintro (_ | ⟨_, _ | ⟨_, _ | ⟨_, first⟩⟩⟩) later v nonempty deeper same there
    · exact absurd rfl nonempty
    · cases same
      cases there
      exact Bool.false_ne_true
    · cases same
      cases there
      exact Bool.false_ne_true
    · have length := congrArg List.length same
      have more := List.length_pos_of_ne_nil deeper
      simp only [List.length_append, List.length_cons, List.length_nil] at length
      omega
  refine ⟨straight, ((get?_follows_data atlas _ straight).1 _).1 ?_⟩
  rw [get?, cut]
  rfl

end Row
end DocumentPipeline
