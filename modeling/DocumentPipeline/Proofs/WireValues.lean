import DocumentPipeline.Wire

/-!
# Wire values as trees

* `Value.parts`: the values directly inside a value, those of nested stages included;
* `Value.within`: a value and all values inside it, at any depth;
* `Value.inductParts`: what holds of a value whenever it holds of its parts holds of every value.
-/

namespace DocumentPipeline.Wire

/-- The values in a stage: its arguments and the values of its options. -/
def Stage.parts (s : Stage) : List Value := s.arguments ++ s.options.map (·.2)

/-- The values directly inside a value. -/
def Value.parts : Value → List Value
  | .array items => items
  | .map fields => fields.map (·.2)
  | .function _ arguments options => arguments ++ options.map (·.2)
  | .pipeline stages => stages.flatMap (·.parts)
  | _ => []

/-- What holds of a value when it holds of its parts holds of every value. -/
theorem Value.inductParts {P : Value → Prop} (step : ∀ v : Value, (∀ u ∈ v.parts, P u) → P v) :
    ∀ v, P v := by
  refine @Value.rec P (fun s => ∀ v ∈ s.parts, P v) (fun items => ∀ v ∈ items, P v)
    (fun fields => ∀ field ∈ fields, P field.2) (fun stages => ∀ s ∈ stages, ∀ v ∈ s.parts, P v)
    (fun field => P field.2)
    (step _ nofun) (fun _ => step _ nofun) (fun _ => step _ nofun) (fun _ => step _ nofun)
    (fun _ => step _ nofun) (fun _ => step _ nofun) (fun _ => step _ nofun)
    (fun _ => step _ nofun) (fun _ => step _ nofun)
    (fun items ih => step _ ih) (fun fields ih => step _ (List.forall_mem_map.2 ih))
    (fun _ => step _ nofun)
    (fun _ arguments options inArguments inOptions =>
      step _ (List.forall_mem_append.2 ⟨inArguments, List.forall_mem_map.2 inOptions⟩))
    (fun stages ih => step _ (List.forall_mem_flatMap.2 ih))
    (fun _ arguments options inArguments inOptions =>
      List.forall_mem_append.2 ⟨inArguments, List.forall_mem_map.2 inOptions⟩)
    nofun (fun _ _ hv hrest => List.forall_mem_cons.2 ⟨hv, hrest⟩)
    nofun (fun _ _ hfield hrest => List.forall_mem_cons.2 ⟨hfield, hrest⟩)
    nofun (fun _ _ hs hrest => List.forall_mem_cons.2 ⟨hs, hrest⟩) (fun _ _ h => h)

mutual

/-- A value and all values inside it, at any depth. -/
def Value.within : Value → List Value
  | .array items => .array items :: withinItems items
  | .map fields => .map fields :: withinFields fields
  | .function name arguments options =>
    .function name arguments options :: (withinItems arguments ++ withinFields options)
  | .pipeline stages => .pipeline stages :: withinStages stages
  | v => [v]

def withinItems : List Value → List Value
  | [] => []
  | v :: rest => v.within ++ withinItems rest

def withinFields : List (String × Value) → List Value
  | [] => []
  | (_, v) :: rest => v.within ++ withinFields rest

/-- All values inside a stage, at any depth. -/
def Stage.within : Stage → List Value
  | ⟨_, arguments, options⟩ => withinItems arguments ++ withinFields options

def withinStages : List Stage → List Value
  | [] => []
  | s :: rest => s.within ++ withinStages rest

end

theorem withinItems_eq (items : List Value) : withinItems items = items.flatMap (·.within) := by
  induction items with
  | nil => rfl
  | cons v rest ih => rw [withinItems, ih, List.flatMap_cons]

theorem withinFields_eq (fields : FieldMap Value) :
    withinFields fields = (fields.map (·.2)).flatMap (·.within) := by
  induction fields with
  | nil => rfl
  | cons field rest ih => rw [withinFields, ih, List.map_cons, List.flatMap_cons]

theorem Stage.within_eq (s : Stage) : s.within = s.parts.flatMap (·.within) := by
  obtain ⟨name, arguments, options⟩ := s
  rw [within, withinItems_eq, withinFields_eq, parts, List.flatMap_append]

theorem withinStages_eq (stages : List Stage) :
    withinStages stages = (stages.flatMap (·.parts)).flatMap (·.within) := by
  induction stages with
  | nil => rfl
  | cons s rest ih =>
    rw [withinStages, ih, s.within_eq, List.flatMap_cons, List.flatMap_append]

theorem Value.within_eq (v : Value) : v.within = v :: v.parts.flatMap (·.within) := by
  cases v with
  | array items => rw [within, withinItems_eq, parts]
  | map fields => rw [within, withinFields_eq, parts]
  | function name arguments options =>
    rw [within, withinItems_eq, withinFields_eq, parts, List.flatMap_append]
  | pipeline stages => rw [within, withinStages_eq, parts]
  | _ => rfl

/-- What holds of every value within another holds of that one and within its parts. -/
theorem Value.forall_within {P : Value → Prop} {v : Value} :
    (∀ u ∈ v.within, P u) ↔ P v ∧ ∀ part ∈ v.parts, ∀ u ∈ part.within, P u := by
  rw [v.within_eq, List.forall_mem_cons, List.forall_mem_flatMap]

end DocumentPipeline.Wire
