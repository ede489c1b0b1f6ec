import DocumentPipeline.Proofs.Traversal
import DocumentPipeline.Wire.View

/-!
# Values seen as plain JSON

A literal may be given as JSON, is sent as a wire value, and wire values are seen as plain JSON again.

* `Wire.itemsView_eq`, `Wire.fieldsView_eq`, `Wire.get?_fieldsView`: the view item by item;
* `Wire.Value.vectorNumbers?_isSome_iff`: the maps that are seen as vectors;
* `Json.Plain`: JSON whose numbers fit and in which no object is marked as a vector;
* `Encoding.encodeConstant_ofJson`: what is sent for a literal that is given as JSON;
* `Json.seen_again_iff`: it is seen as the same JSON again just when that is plain.
-/

namespace DocumentPipeline

namespace Wire

theorem itemsView_eq (items : List Value) : itemsView items = items.map (·.view) := by
  induction items with
  | nil => rfl
  | cons v rest ih => rw [itemsView, ih, List.map_cons]

theorem fieldsView_eq (fields : FieldMap Value) :
    fieldsView fields = fields.map fun field => (field.1, field.2.view) := by
  induction fields with
  | nil => rfl
  | cons field rest ih => rw [fieldsView, ih, List.map_cons]

theorem get?_fieldsView (fields : FieldMap Value) (key : String) :
    FieldMap.get? key (fieldsView fields) = (FieldMap.get? key fields).map (·.view) := by
  rw [fieldsView_eq, FieldMap.get?_map]

theorem Value.mapM_number?_isSome {items : List Value} :
    (items.mapM number?).isSome = true ↔ ∀ item ∈ items, item.number?.isSome = true := by
  induction items with
  | nil => simp
  | cons item rest ih =>
    rw [List.forall_mem_cons, ← ih, List.mapM_cons]
    cases item.number? <;> cases rest.mapM number? <;> simp

theorem Value.string?_eq_some {v : Value} {s : String} : v.string? = some s ↔ v = .string s := by
  cases v <;> simp [string?]

theorem Value.array?_eq_some {v : Value} {items : List Value} :
    v.array? = some items ↔ v = .array items := by
  cases v <;> simp [array?]

/-- **A map is seen as a vector** if its mark is there and every item of its value is a number. -/
theorem Value.vectorNumbers?_isSome_iff {fields : FieldMap Value} :
    (vectorNumbers? fields).isSome = true ↔
      fields.get? vectorTypeKey = some (.string vectorType) ∧ ∃ items,
        fields.get? vectorValueKey = some (.array items) ∧
          ∀ item ∈ items, item.number?.isSome = true := by
  simp only [← mapM_number?_isSome]
  simp only [Option.isSome_iff_exists, vectorNumbers?, Option.bind_eq_bind, Option.bind_eq_some_iff,
    string?_eq_some, array?_eq_some, guard]
  constructor
  · rintro ⟨numbers, _, marked, mark, rfl, _, same, _, there, items, rfl, read⟩
    split at same
    · next isVector => exact ⟨isVector ▸ marked, items, there, numbers, read⟩
    · cases same
  · rintro ⟨marked, items, there, numbers, read⟩
    exact ⟨numbers, _, marked, vectorType, rfl, (), if_pos rfl, _, there, items, rfl, read⟩

end Wire

open Wire (Value)

namespace Json

/-- What holds of a JSON value when it holds of its items and members holds of every one. -/
theorem inductParts {P : Json → Prop} (null : P .null) (bool : ∀ b, P (.bool b))
    (int : ∀ n, P (.int n)) (double : ∀ x, P (.double x)) (string : ∀ s, P (.string s))
    (array : ∀ items, (∀ item ∈ items, P item) → P (.array items))
    (object : ∀ members, (∀ member ∈ members, P member.2) → P (.object members)) : ∀ j, P j := by
  refine @Json.rec P (fun items => ∀ item ∈ items, P item)
    (fun members => ∀ member ∈ members, P member.2) (fun member => P member.2) null bool int double
    string array object ?_ ?_ ?_ ?_ (fun _ _ h => h)
  · simp
  · exact fun item rest hitem hrest => List.forall_mem_cons.2 ⟨hitem, hrest⟩
  · simp
  · exact fun member rest hmember hrest => List.forall_mem_cons.2 ⟨hmember, hrest⟩

def IsNumber : Json → Prop
  | .int _ => True
  | .double _ => True
  | _ => False

/-- An object is marked as a vector, and its value is an array of numbers only. -/
def TaggedVector (members : FieldMap Json) : Prop :=
  members.get? Wire.vectorTypeKey = some (.string Wire.vectorType) ∧ ∃ items,
    members.get? Wire.vectorValueKey = some (.array items) ∧ ∀ item ∈ items, item.IsNumber

/-- JSON whose numbers are integers of 64 bits with a sign or finite doubles, and in which no object,
at any depth, is a tagged vector. The members of an object are sorted by name, as they always are. -/
inductive Plain : Json → Prop where
  | null : Plain .null
  | bool (b : Bool) : Plain (.bool b)
  | int {n : Int} : Int64.minValue.toInt ≤ n ∧ n ≤ Int64.maxValue.toInt → Plain (.int n)
  | double {x : Double} : x.isFinite = true → Plain (.double x)
  | string (s : String) : Plain (.string s)
  | array {items : List Json} : (∀ item ∈ items, Plain item) → Plain (.array items)
  | object {members : FieldMap Json} : members.Sorted → ¬TaggedVector members →
      (∀ member ∈ members, Plain member.2) → Plain (.object members)

end Json

namespace Wire

mutual

/-- What is sent for a literal that is given as JSON. -/
def Value.ofJson : Json → Value
  | .null => .null
  | .bool b => .boolean b
  | .int n =>
    if Int64.minValue.toInt ≤ n ∧ n ≤ Int64.maxValue.toInt then .integer (Int64.ofInt n)
    else .double (Double.ofInt n)
  | .double x => .double x
  | .string s => .string s
  | .array items => .array (ofItems items)
  | .object members => .ofFields (ofMembers members)

def ofItems : List Json → List Value
  | [] => []
  | j :: rest => Value.ofJson j :: ofItems rest

def ofMembers : List (String × Json) → List (String × Value)
  | [] => []
  | (key, j) :: rest => (key, Value.ofJson j) :: ofMembers rest

end

theorem ofItems_eq (items : List Json) : ofItems items = items.map Value.ofJson := by
  induction items with
  | nil => rfl
  | cons j rest ih => rw [ofItems, ih, List.map_cons]

theorem ofMembers_eq (members : FieldMap Json) :
    ofMembers members = members.map fun member => (member.1, Value.ofJson member.2) := by
  induction members with
  | nil => rfl
  | cons member rest ih => rw [ofMembers, ih, List.map_cons]

end Wire

namespace Constant

theorem ofItems_eq (items : List Json) : ofItems items = items.map ofJson := by
  induction items with
  | nil => rfl
  | cons j rest ih => rw [ofItems, ih, List.map_cons]

theorem ofMembers_eq (members : FieldMap Json) :
    ofMembers members = members.map fun member => (member.1, ofJson member.2) := by
  induction members with
  | nil => rfl
  | cons member rest ih => rw [ofMembers, ih, List.map_cons]

/-- No JSON value stands for an absent one. -/
theorem isUndefined_ofJson (j : Json) : (ofJson j).isUndefined = false := by
  cases j with
  | int n =>
    rw [ofJson]
    split <;> rfl
  | _ => rfl

end Constant

namespace Encoding
variable (skipUndefined : Bool)

theorem kept_ofJson (members : FieldMap Json) :
    kept (fun c => skipUndefined && Constant.isUndefined c)
      (members.map fun member => (member.1, Constant.ofJson member.2)) =
      members.map fun member => (member.1, Constant.ofJson member.2) := by
  refine List.filter_eq_self.2 fun entry hentry => ?_
  obtain ⟨member, -, rfl⟩ := List.mem_map.1 hentry
  simp [Constant.isUndefined_ofJson]

/-- **Every literal that is given as JSON is sent**, whether absent values are skipped or not. -/
theorem encodeConstant_ofJson (j : Json) :
    encodeConstant skipUndefined (.ofJson j) = .ok (.ofJson j) := by
  induction j using Json.inductParts with
  | int n =>
    rw [Constant.ofJson, Value.ofJson]
    split <;> rfl
  | array items ih =>
    have sent : (items.map Constant.ofJson).mapM (encodeConstant skipUndefined) =
        .ok (items.map Value.ofJson) := by
      rw [List.mapM_map]
      exact mapM_eq_ok_map ih
    rw [Constant.ofJson, Value.ofJson, encodeConstant, encodeConstants_eq_mapM, Constant.ofItems_eq,
      Wire.ofItems_eq, sent]
    rfl
  | object members ih =>
    have sent : (members.map fun member => (member.1, Constant.ofJson member.2)).mapM
        (encodeUnder (encodeConstant skipUndefined)) =
        .ok (members.map fun member => (member.1, Value.ofJson member.2)) := by
      rw [List.mapM_map]
      refine mapM_eq_ok_map fun member hmember => ?_
      rw [Function.comp_apply, encodeUnder, ih member hmember]
      rfl
    rw [Constant.ofJson, Value.ofJson, encodeConstant, encodeEntries_eq, Constant.ofMembers_eq,
      Wire.ofMembers_eq, kept_ofJson, sent]
    rfl
  | _ => rfl

end Encoding

namespace Json

theorem isNumber_iff {j : Json} : j.IsNumber ↔ (Value.ofJson j).number?.isSome = true := by
  cases j with
  | int n =>
    rw [Value.ofJson]
    split <;> simp [IsNumber, Value.number?]
  | _ => simp [IsNumber, Value.ofJson, Value.ofFields, Value.number?]

theorem ofJson_eq_string {j : Json} {s : String} : Value.ofJson j = .string s ↔ j = .string s := by
  cases j with
  | int n =>
    rw [Value.ofJson]
    split <;> simp
  | _ => simp [Value.ofJson, Value.ofFields]

theorem ofJson_eq_array {j : Json} {values : List Value} :
    Value.ofJson j = .array values ↔ ∃ items, j = .array items ∧ values = items.map Value.ofJson := by
  cases j with
  | int n =>
    rw [Value.ofJson]
    split <;> simp
  | array items => simp [Value.ofJson, Wire.ofItems_eq, eq_comm]
  | _ => simp [Value.ofJson, Value.ofFields]

/-- The fields that are sent for an object are seen as a vector if it is tagged as one. -/
theorem taggedVector_iff {members : FieldMap Json} :
    TaggedVector members ↔ (Value.vectorNumbers?
      (members.map fun member => (member.1, Value.ofJson member.2))).isSome = true := by
  simp only [Value.vectorNumbers?_isSome_iff, FieldMap.get?_map, Option.map_eq_some_iff,
    ofJson_eq_string, ofJson_eq_array, TaggedVector, isNumber_iff]
  constructor
  · rintro ⟨marked, items, there, numbers⟩
    exact ⟨⟨_, marked, rfl⟩, _, ⟨_, there, items, rfl, rfl⟩, List.forall_mem_map.2 numbers⟩
  · rintro ⟨⟨_, marked, rfl⟩, _, ⟨_, there, items, rfl, rfl⟩, numbers⟩
    exact ⟨marked, items, there, List.forall_mem_map.1 numbers⟩

/-- What is seen of the fields of a map. -/
theorem view_map_iff {fields : FieldMap Value} {members : FieldMap Json} :
    (Value.map fields).view = .object members ↔
      ¬(Value.vectorNumbers? fields).isSome = true ∧
        fields.map (fun field => (field.1, field.2.view)) = members := by
  rw [Value.view, Wire.fieldsView_eq]
  cases Value.vectorNumbers? fields <;> simp

/-- What is seen of an object whose members are in order. -/
theorem view_object_iff {members : FieldMap Json} (sorted : members.Sorted) :
    (Value.ofJson (.object members)).view = .object members ↔
      ¬TaggedVector members ∧ ∀ member ∈ members, (Value.ofJson member.2).view = member.2 := by
  rw [Value.ofJson, Value.ofFields, Wire.ofMembers_eq,
    FieldMap.ofList_of_sorted (FieldMap.sorted_map.2 sorted), view_map_iff, taggedVector_iff,
    List.map_map, map_eq_self_iff]
  refine and_congr_right fun _ => forall₂_congr fun member _ => ?_
  rw [Function.comp_apply, Prod.ext_iff]
  exact and_iff_right rfl

/-- What is seen of an object is an object only if the members are in order. -/
theorem sorted_of_view {members members' : FieldMap Json}
    (seen : (Value.ofJson (.object members)).view = .object members') : members'.Sorted := by
  rw [Value.ofJson, Value.ofFields, view_map_iff] at seen
  rw [← seen.2]
  exact FieldMap.sorted_map.2 (FieldMap.sorted_ofList _)

/-- **JSON is seen again** in the value that is sent for it just when it is plain. -/
theorem view_ofJson_iff {j : Json} : (Value.ofJson j).view = j ↔ j.Plain := by
  induction j using inductParts with
  | null => exact ⟨fun _ => .null, fun _ => rfl⟩
  | bool b => exact ⟨fun _ => .bool b, fun _ => rfl⟩
  | int n =>
    by_cases fits : Int64.minValue.toInt ≤ n ∧ n ≤ Int64.maxValue.toInt
    · have below : n < 2 ^ 63 := lt_of_le_of_lt fits.2 (by decide)
      rw [Value.ofJson, if_pos fits, Value.view, ofInt64, Int64.toInt_ofInt_of_le fits.1 below]
      exact ⟨fun _ => .int fits, fun _ => rfl⟩
    · rw [Value.ofJson, if_neg fits, Value.view, ofDouble]
      constructor
      · intro seen
        split at seen <;> cases seen
      · rintro ⟨⟩
        contradiction
  | double x =>
    rw [Value.ofJson, Value.view, ofDouble]
    by_cases finite : x.isFinite = true
    · rw [if_pos finite]
      exact ⟨fun _ => .double finite, fun _ => rfl⟩
    · rw [if_neg finite]
      refine ⟨nofun, ?_⟩
      rintro ⟨⟩
      contradiction
  | string s => exact ⟨fun _ => .string s, fun _ => rfl⟩
  | array items ih =>
    rw [Value.ofJson, Value.view, Wire.ofItems_eq, Wire.itemsView_eq, List.map_map, Json.array.injEq,
      map_eq_self_iff]
    constructor
    · intro seen
      exact .array fun item hitem => (ih item hitem).1 (seen item hitem)
    · intro plain
      cases plain with
      | array parts => exact fun item hitem => (ih item hitem).2 (parts item hitem)
  | object members ih =>
    constructor
    · intro seen
      have sorted := sorted_of_view seen
      obtain ⟨noVector, parts⟩ := (view_object_iff sorted).1 seen
      exact .object sorted noVector fun member hmember => (ih member hmember).1 (parts member hmember)
    · intro plain
      cases plain with
      | object sorted noVector parts =>
        exact (view_object_iff sorted).2
          ⟨noVector, fun member hmember => (ih member hmember).2 (parts member hmember)⟩

/-- **A literal that is given as JSON is seen as the same JSON again** just when that is plain, and it
is sent in any case, in the same way whether absent values are skipped or not. -/
theorem seen_again_iff (j : Json) :
    ∃ v, (∀ skipUndefined, Encoding.encodeConstant skipUndefined (.ofJson j) = .ok v) ∧
      (v.view = j ↔ j.Plain) :=
  ⟨.ofJson j, fun skipUndefined => Encoding.encodeConstant_ofJson skipUndefined j, view_ofJson_iff⟩

end Json
end DocumentPipeline
