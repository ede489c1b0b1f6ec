import DocumentPipeline.Proofs.Base64
import DocumentPipeline.Proofs.WireReading
import DocumentPipeline.Wire.Writer

/-!
# Reading a wire value undoes writing it

* `Recovered`: reading gives back what was written if all its doubles are finite, and fails if one
  of them is not; this carries over from parts to wholes;
* `value_recovered`, `stage_recovered`, `pipeline_recovered`: so it is with values whose maps are
  sorted, with stages and with pipelines.
-/

namespace DocumentPipeline

section
variable {α β : Type}

/-- A reading gave `x` back if all the doubles are finite, and failed otherwise. -/
def Recovered (r : Option α) (x : α) (doubles : List Double) : Prop :=
  r = if doubles.all (·.isFinite) then some x else none

theorem Recovered.of_some {r : Option α} {x : α} (h : r = some x) : Recovered r x [] := h

theorem Recovered.map {r : Option α} {x : α} {doubles : List Double} (h : Recovered r x doubles)
    (f : α → β) : Recovered (r.map f) (f x) doubles := by
  rw [Recovered, h]
  split <;> rfl

theorem Recovered.bind {r : Option α} {x : α} {xs ys : List Double} {f : α → Option β} {y : β}
    (hx : Recovered r x xs) (hy : Recovered (f x) y ys) : Recovered (r.bind f) y (xs ++ ys) := by
  rw [Recovered, hx, List.all_append]
  cases xs.all (·.isFinite) with
  | true => exact hy
  | false => rfl

theorem Recovered.bind_return {r : Option α} {x : α} {doubles : List Double} {f : α → β}
    (h : Recovered r x doubles) : Recovered (do return f (← r)) (f x) doubles := by
  rw [Recovered, h]
  split <;> rfl

theorem Recovered.mapM {write : α → β} {read : β → Option α} {doubles : α → List Double}
    {l : List α} (h : ∀ a ∈ l, Recovered (read (write a)) a (doubles a)) :
    Recovered ((l.map write).mapM read) l (l.flatMap doubles) := by
  induction l with
  | nil => rfl
  | cons a l ih =>
    obtain ⟨ha, hl⟩ := List.forall_mem_cons.1 h
    rw [List.map_cons, List.mapM_cons, List.flatMap_cons]
    exact ha.bind (ih hl).bind_return

theorem Recovered.some_iff {r : Option α} {x : α} {doubles : List Double}
    (h : Recovered r x doubles) : r = some x ↔ ∀ d ∈ doubles, d.isFinite = true := by
  rw [h, ← List.all_eq_true]
  split <;> simp_all

theorem Recovered.none {r : Option α} {x : α} {doubles : List Double} (h : Recovered r x doubles)
    (bad : ∃ d ∈ doubles, d.isFinite = false) : r = none := by
  obtain ⟨d, hd, infinite⟩ := bad
  rw [h, if_neg]
  intro finite
  rw [List.all_eq_true.1 finite d hd] at infinite
  cases infinite

end

open Json (Literal)

theorem double_recovered (x : Double) : Recovered (Json.ofDouble x).toLiteral.double? x [x] := by
  rw [Recovered, Json.ofDouble]
  cases h : x.isFinite <;> simp [h, Json.toLiteral, Literal.double?]

theorem int64?_toLiteral (n : Int64) : (Json.ofInt64 n).toLiteral.int64? = some n := by
  have low := n.minValue_le_toInt
  have high := n.toInt_le
  simp only [Json.ofInt64, Json.toLiteral, Literal.int64?]
  rw [if_pos ⟨low, high⟩, Int64.ofInt_toInt]

theorem int32?_toLiteral (n : Int32) : (Json.int n.toInt).toLiteral.int32? = some n := by
  simp only [Json.toLiteral, Literal.int32?]
  rw [if_pos ⟨n.minValue_le_toInt, n.toInt_le⟩, Int32.ofInt_toInt]

theorem Timestamp.ofLiteral?_toJson (t : Timestamp) :
    Timestamp.ofLiteral? t.toJson.toLiteral = some t := by
  rw [ofLiteral?, toJson, Json.fields?_ofMembers]
  simp [FieldMap.ofList, FieldMap.get?_insert, int64?_toLiteral, int32?_toLiteral]

theorem geoPoint_recovered (p : GeoPoint) :
    Recovered (GeoPoint.ofLiteral? p.toJson.toLiteral) p [p.latitude, p.longitude] := by
  rw [GeoPoint.ofLiteral?, GeoPoint.toJson, Json.fields?_ofMembers]
  simp only [FieldMap.ofList, List.foldl_cons, List.foldl_nil, List.map_cons, List.map_nil,
    FieldMap.get?_insert, String.reduceEq, if_true, if_false, Option.map_some]
  exact (double_recovered p.latitude).bind (double_recovered p.longitude).bind_return

theorem string?_toLiteral (s : String) : (Json.string s).toLiteral.string? = some s := rfl

namespace Wire

theorem bytes?_toLiteral (b : List UInt8) :
    bytes? (Json.string (Text.Base64.encode b)).toLiteral = some b := by
  simp [bytes?, Json.toLiteral, Literal.string?, Text.Base64.decode_encode]

theorem itemsToJson_eq (items : List Value) : itemsToJson items = items.map (·.toJson) := by
  induction items with
  | nil => rfl
  | cons v rest ih => rw [itemsToJson, ih, List.map_cons]

theorem fieldsToJson_eq (fields : FieldMap Value) :
    fieldsToJson fields = fields.map fun field => (field.1, field.2.toJson) := by
  induction fields with
  | nil => rfl
  | cons field rest ih => rw [fieldsToJson, ih, List.map_cons]

theorem stagesToJson_eq (stages : List Stage) : stagesToJson stages = stages.map (·.toJson) := by
  induction stages with
  | nil => rfl
  | cons s rest ih => rw [stagesToJson, ih, List.map_cons]

/-- A value is read back from what was written. -/
def Value.Returns (v : Value) : Prop :=
  Recovered (Value.ofLiteral? v.toJson.toLiteral) v v.doubles

theorem items_recovered {items : List Value} (h : ∀ v ∈ items, v.Returns) :
    Recovered (items? (Json.array (itemsToJson items)).toLiteral) items
      (items.flatMap (·.doubles)) := by
  rw [Json.toLiteral, items?, itemList?_eq_mapM, itemsToJson_eq, Json.toLiterals_eq, List.map_map]
  exact .mapM h

theorem fields_recovered {fields : FieldMap Value} (sorted : fields.Sorted)
    (h : ∀ field ∈ fields, field.2.Returns) :
    Recovered (fields? (Json.object (fieldsToJson fields)).toLiteral) fields
      (fields.flatMap (·.2.doubles)) := by
  rw [Json.toLiteral, fields?, fieldList?_eq, fieldsToJson_eq, Json.toMembers_eq, List.map_map]
  have under : ∀ field ∈ fields,
      Recovered (readUnder (some field.1, field.2.toJson.toLiteral)) field field.2.doubles :=
    fun field hfield => (h field hfield).bind_return
  have built : FieldMap.insertAll fields [] = fields := FieldMap.ofList_of_sorted sorted
  have back := (Recovered.mapM under).map (FieldMap.insertAll · [])
  rwa [built] at back

section
variable {name : String} {arguments : List Value} {options : FieldMap Value}

theorem parts_recovered (sorted : options.Sorted)
    (inArguments : ∀ v ∈ arguments, v.Returns)
    (inOptions : ∀ option ∈ options, option.2.Returns) :
    Recovered (parts? (Json.object [("args", .array (itemsToJson arguments)),
        ("name", .string name), ("options", .object (fieldsToJson options))]).toLiteral)
      (name, arguments, options) (arguments.flatMap (·.doubles) ++ options.flatMap (·.2.doubles)) := by
  rw [Json.toLiteral, parts?, itemsMember?_eq, fieldsMember?_eq]
  have argumentsBack := items_recovered inArguments
  have optionsBack := fields_recovered sorted inOptions
  simp only [Json.toMembers, Literal.member?, String.reduceEq, ↓reduceIte, Option.isSome_none,
    Bool.false_eq_true, Option.bind_some, Option.elim_some, Option.bind_eq_bind, string?_toLiteral]
  exact (argumentsBack.map some).bind (optionsBack.map some).bind_return

theorem parts_recovered_of_empty (inArguments : ∀ v ∈ arguments, v.Returns) :
    Recovered (parts? (Json.object [("args", .array (itemsToJson arguments)),
        ("name", .string name)]).toLiteral) (name, arguments, [])
      (arguments.flatMap (·.doubles)) := by
  rw [Json.toLiteral, parts?, itemsMember?_eq, fieldsMember?_eq]
  have argumentsBack := items_recovered inArguments
  simp only [Json.toMembers, Literal.member?, String.reduceEq, ↓reduceIte, Option.isSome_none,
    Bool.false_eq_true, Option.bind_some, Option.elim_some, Option.elim_none, Option.bind_eq_bind,
    string?_toLiteral]
  exact (argumentsBack.map some).bind_return

end

/-- The parts of a stage return, and its options are sorted. -/
def Stage.PartsReturn (s : Stage) : Prop :=
  FieldMap.Sorted s.options ∧ ∀ v ∈ s.parts, v.Returns

theorem stage_recovered_of_parts {s : Stage} (h : s.PartsReturn) :
    Recovered (Stage.ofLiteral? s.toJson.toLiteral) s s.doubles := by
  obtain ⟨name, arguments, options⟩ := s
  obtain ⟨sorted, parts⟩ := h
  obtain ⟨inArguments, inOptions⟩ := List.forall_mem_append.1 parts
  rw [Stage.doubles_eq, Stage.parts, List.flatMap_append, List.flatMap_map, Stage.ofLiteral?,
    Stage.toJson]
  exact (parts_recovered sorted inArguments (List.forall_mem_map.1 inOptions)).map _

theorem stages_recovered_of_parts {stages : List Stage} (h : ∀ s ∈ stages, s.PartsReturn) :
    Recovered (pipeline? (pipelineToJson stages).toLiteral) stages
      (stages.flatMap (·.doubles)) := by
  have back : Recovered (stages? (Json.array (stagesToJson stages)).toLiteral) stages
      (stages.flatMap (·.doubles)) := by
    rw [Json.toLiteral, stages?, stageList?_eq_mapM, stagesToJson_eq, Json.toLiterals_eq,
      List.map_map]
    exact .mapM fun s hs => stage_recovered_of_parts (h s hs)
  rw [pipelineToJson, Json.toLiteral, pipeline?, stagesMember?_eq]
  simp only [Json.toMembers, Literal.member?, ↓reduceIte, Option.isSome_none, Bool.false_eq_true,
    Option.bind_some, Option.elim_some, Option.bind_eq_bind, Option.bind_map]
  exact (Option.bind_fun_some _).symm ▸ back

/-- **Reading a value** whose maps are sorted undoes writing it. -/
theorem value_recovered {v : Value} (sorted : v.Sorted) : v.Returns := by
  induction v using Value.inductParts with
  | step v ih =>
    obtain ⟨keys, parts⟩ := Value.sorted_iff.1 sorted
    have inner : ∀ part ∈ v.parts, part.Returns :=
      fun part hpart => ih part hpart (parts part hpart)
    rw [Value.Returns, v.doubles_eq]
    cases v with
    | null => rfl
    | boolean b => rfl
    | integer n =>
      exact .of_some (congrArg (Option.map Value.integer) (int64?_toLiteral n))
    | double x => exact (double_recovered x).map Value.double
    | string s => rfl
    | reference name => rfl
    | field path => rfl
    | timestamp t =>
      exact .of_some (congrArg (Option.map Value.timestamp) t.ofLiteral?_toJson)
    | bytes b => exact .of_some (congrArg (Option.map Value.bytes) (bytes?_toLiteral b))
    | geoPoint p => exact (geoPoint_recovered p).map Value.geoPoint
    | array items =>
      exact (((items_recovered inner).map some).map (·.getD [])).map Value.array
    | map fields =>
      rw [Value.parts, List.flatMap_map]
      have back := fields_recovered keys (List.forall_mem_map.1 inner)
      exact ((back.map some).map (·.getD [])).map Value.map
    | function name arguments options =>
      obtain ⟨inArguments, inOptions⟩ := List.forall_mem_append.1 inner
      rw [Value.parts, List.flatMap_append, List.flatMap_map]
      cases options with
      | nil =>
        rw [List.flatMap_nil, List.append_nil]
        exact (parts_recovered_of_empty inArguments).map _
      | cons option rest =>
        exact (parts_recovered keys inArguments (List.forall_mem_map.1 inOptions)).map _
    | pipeline stages =>
      have back := stages_recovered_of_parts fun s hs =>
        ⟨keys s hs, fun v hv => inner v (List.mem_flatMap.2 ⟨s, hs, hv⟩)⟩
      rw [Value.parts, List.flatMap_assoc]
      simp only [Stage.doubles_eq] at back
      exact back.map Value.pipeline

theorem Stage.Sorted.partsReturn {s : Stage} (sorted : s.Sorted) : s.PartsReturn :=
  ⟨sorted.1, fun v hv => value_recovered (sorted.2 v hv)⟩

/-- **Reading a stage** undoes writing it. -/
theorem stage_recovered {s : Stage} (sorted : s.Sorted) :
    Recovered (Stage.ofLiteral? s.toJson.toLiteral) s s.doubles :=
  stage_recovered_of_parts sorted.partsReturn

/-- **Reading a pipeline** undoes writing it. -/
theorem pipeline_recovered {stages : List Stage} (sorted : ∀ s ∈ stages, s.Sorted) :
    Recovered (pipeline? (pipelineToJson stages).toLiteral) stages
      (stages.flatMap (·.doubles)) :=
  stages_recovered_of_parts fun s hs => (sorted s hs).partsReturn

end Wire
end DocumentPipeline
