import DocumentPipeline.Proofs.Expressions
import DocumentPipeline.Proofs.WireValues

/-!
# Field references in expressions

* `Wire.Value.fieldPaths`: the paths of the field references in a value, at any depth;
* `Expression.wireValues`: the wire values that stand for themselves in an expression, with
  references of their own;
* `encodeExpression_pathsDotted`: an expression without wire values refers to the fields that were
  checked and to no others.
-/

namespace DocumentPipeline

namespace Wire

/-- The paths of the field references in a value, at any depth. -/
def Value.fieldPaths (v : Value) : List String := v.within.filterMap (·.field?)

/-- The paths of the field references in the arguments and the options of a stage. -/
def Stage.fieldPaths (s : Stage) : List String := s.within.filterMap (·.field?)

/-- Every field reference in a value is a dotted path. -/
def Value.PathsDotted (v : Value) : Prop := ∀ path ∈ v.fieldPaths, Dotted path

def Stage.PathsDotted (s : Stage) : Prop := ∀ path ∈ s.fieldPaths, Dotted path

theorem Value.mem_fieldPaths {v : Value} {path : String} :
    path ∈ v.fieldPaths ↔ v.field? = some path ∨ ∃ part ∈ v.parts, path ∈ part.fieldPaths := by
  simp only [fieldPaths, v.within_eq, List.mem_filterMap, List.mem_cons, List.mem_flatMap]
  constructor
  · rintro ⟨u, rfl | ⟨part, hpart, hu⟩, hpath⟩
    · exact .inl hpath
    · exact .inr ⟨part, hpart, u, hu, hpath⟩
  · rintro (hpath | ⟨part, hpart, u, hu, hpath⟩)
    · exact ⟨v, .inl rfl, hpath⟩
    · exact ⟨u, .inr ⟨part, hpart, hu⟩, hpath⟩

theorem Stage.mem_fieldPaths {s : Stage} {path : String} :
    path ∈ s.fieldPaths ↔ ∃ part ∈ s.parts, path ∈ part.fieldPaths := by
  simp only [fieldPaths, Value.fieldPaths, s.within_eq, List.mem_filterMap, List.mem_flatMap]
  constructor
  · rintro ⟨u, ⟨part, hpart, hu⟩, hpath⟩
    exact ⟨part, hpart, u, hu, hpath⟩
  · rintro ⟨part, hpart, u, hu, hpath⟩
    exact ⟨u, ⟨part, hpart, hu⟩, hpath⟩

theorem pathsDotted_of_none {v : Value} (none : v.fieldPaths = []) : v.PathsDotted := by
  simp [Value.PathsDotted, none]

/-- A value that is no field reference itself refers to the fields that its parts refer to. -/
theorem pathsDotted_of_parts {v : Value} (own : v.field? = none)
    (parts : ∀ part ∈ v.parts, part.PathsDotted) : v.PathsDotted := by
  intro path hpath
  obtain hpath | ⟨part, hpart, hpath⟩ := Value.mem_fieldPaths.1 hpath
  · rw [own] at hpath
    cases hpath
  · exact parts part hpart path hpath

theorem pathsDotted_array {items : List Value} (h : ∀ v ∈ items, v.PathsDotted) :
    (Value.array items).PathsDotted :=
  pathsDotted_of_parts rfl h

theorem pathsDotted_map {fields : FieldMap Value} (h : ∀ field ∈ fields, field.2.PathsDotted) :
    (Value.map fields).PathsDotted :=
  pathsDotted_of_parts rfl (List.forall_mem_map.2 h)

theorem pathsDotted_call {name : String} {arguments : List Value}
    (h : ∀ v ∈ arguments, v.PathsDotted) : (Value.call name arguments).PathsDotted :=
  pathsDotted_of_parts rfl (List.forall_mem_append.2 ⟨h, nofun⟩)

theorem pathsDotted_stage {s : Stage} (h : ∀ v ∈ s.parts, v.PathsDotted) : s.PathsDotted := by
  intro path hpath
  obtain ⟨part, hpart, hpath⟩ := Stage.mem_fieldPaths.1 hpath
  exact h part hpart path hpath

theorem pathsDotted_pipeline {stages : List Stage} (h : ∀ s ∈ stages, s.PathsDotted) :
    (Value.pipeline stages).PathsDotted := by
  refine pathsDotted_of_parts rfl (List.forall_mem_flatMap.2 fun s hs part hpart path hpath => ?_)
  exact h s hs path (Stage.mem_fieldPaths.2 ⟨part, hpart, hpath⟩)

/-- The fields of a map refer to the fields that the map refers to. -/
theorem Value.PathsDotted.field {fields : FieldMap Value} (h : (Value.map fields).PathsDotted) :
    ∀ field ∈ fields, field.2.PathsDotted := by
  intro field hfield path hpath
  exact h path (mem_fieldPaths.2 (.inr ⟨field.2, List.mem_map_of_mem hfield, hpath⟩))

theorem pathsDotted_ofFields {fields : List (String × Value)}
    (h : ∀ field ∈ fields, field.2.PathsDotted) : (Value.ofFields fields).PathsDotted := by
  refine pathsDotted_map fun field hfield => ?_
  obtain hfield | hfield := FieldMap.mem_insertAll hfield
  · exact h field hfield
  · cases hfield

end Wire

mutual

/-- The wire values that stand for themselves in a literal. -/
def Constant.wireValues : Constant → List Wire.Value
  | .wire v => [v]
  | .array items => wireValuesOfItems items
  | .map entries => wireValuesOfEntries entries
  | _ => []

def wireValuesOfItems : List Constant → List Wire.Value
  | [] => []
  | c :: rest => c.wireValues ++ wireValuesOfItems rest

def wireValuesOfEntries : List (String × Constant) → List Wire.Value
  | [] => []
  | (_, c) :: rest => c.wireValues ++ wireValuesOfEntries rest

end

mutual

/-- The wire values that stand for themselves in the literals of an expression. -/
def Expression.wireValues : Expression → List Wire.Value
  | .field _ => []
  | .constant c => c.wireValues
  | .call _ arguments => wireValuesWithin arguments
  | .list items => wireValuesWithin items
  | .map entries => wireValuesUnder entries

def wireValuesWithin : List Expression → List Wire.Value
  | [] => []
  | e :: rest => e.wireValues ++ wireValuesWithin rest

def wireValuesUnder : List (String × Expression) → List Wire.Value
  | [] => []
  | (_, e) :: rest => e.wireValues ++ wireValuesUnder rest

end

theorem wireValuesOfItems_eq (items : List Constant) :
    wireValuesOfItems items = items.flatMap (·.wireValues) := by
  induction items with
  | nil => rfl
  | cons c rest ih => rw [wireValuesOfItems, ih, List.flatMap_cons]

theorem wireValuesOfEntries_eq (entries : List (String × Constant)) :
    wireValuesOfEntries entries = entries.flatMap (·.2.wireValues) := by
  induction entries with
  | nil => rfl
  | cons entry rest ih => rw [wireValuesOfEntries, ih, List.flatMap_cons]

theorem wireValuesWithin_eq (items : List Expression) :
    wireValuesWithin items = items.flatMap (·.wireValues) := by
  induction items with
  | nil => rfl
  | cons e rest ih => rw [wireValuesWithin, ih, List.flatMap_cons]

theorem wireValuesUnder_eq (entries : List (String × Expression)) :
    wireValuesUnder entries = entries.flatMap (·.2.wireValues) := by
  induction entries with
  | nil => rfl
  | cons entry rest ih => rw [wireValuesUnder, ih, List.flatMap_cons]

section
variable {skipUndefined : Bool}

open Validation Encoding
open Wire

/-- The values of an encoded map come from its entries. -/
theorem of_mem_insertAll {α : Type} {dropped : α → Bool} {encode : α → Encoded Value}
    {entries : List (String × α)} {m : FieldMap Value} {field : String × Value}
    (h : (do
      let fields ← (kept dropped entries).mapM (encodeUnder encode)
      return FieldMap.insertAll fields []) = Except.ok m)
    (hfield : field ∈ m) : ∃ entry ∈ entries, encode entry.2 = .ok field.2 := by
  obtain ⟨fields, hfields, hm⟩ := bind_eq_ok.1 h
  cases hm
  obtain hfield | hfield := FieldMap.mem_insertAll hfield
  · obtain ⟨entry, hentry, hunder⟩ := (mem_mapM hfields).1 hfield
    obtain ⟨v, hv, hpair⟩ := bind_eq_ok.1 hunder
    cases hpair
    exact ⟨entry, List.mem_of_mem_filter hentry, hv⟩
  · cases hfield

/-- A literal refers to no fields unless a wire value does so for it. -/
theorem encodeConstant_pathsDotted {c : Constant} {v : Value} (plain : c.wireValues = [])
    (h : encodeConstant skipUndefined c = .ok v) : v.PathsDotted := by
  induction c using Constant.inductParts generalizing v with
  | array items ih =>
    rw [Constant.wireValues, wireValuesOfItems_eq, List.flatMap_eq_nil_iff] at plain
    rw [encodeConstant, encodeConstants_eq_mapM, bind_eq_ok] at h
    obtain ⟨vs, hvs, hv⟩ := h
    cases hv
    refine pathsDotted_array fun v hv => ?_
    obtain ⟨c, hc, hcv⟩ := (mem_mapM hvs).1 hv
    exact ih c hc (plain c hc) hcv
  | map entries ih =>
    rw [Constant.wireValues, wireValuesOfEntries_eq, List.flatMap_eq_nil_iff] at plain
    rw [encodeConstant, bind_eq_ok] at h
    obtain ⟨m, hm, hv⟩ := h
    cases hv
    rw [encodeEntries_eq] at hm
    refine pathsDotted_map fun field hfield => ?_
    obtain ⟨entry, hentry, hv⟩ := of_mem_insertAll hm hfield
    exact ih entry hentry (plain entry hentry) hv
  | wire v => cases plain
  | vector numbers =>
    cases h
    refine pathsDotted_ofFields (List.forall_mem_cons.2 ⟨?_, List.forall_mem_singleton.2 ?_⟩)
    · exact pathsDotted_of_none rfl
    · exact pathsDotted_array (List.forall_mem_map.2 fun x _ => pathsDotted_of_none rfl)
  | undefined =>
    rw [encodeConstant] at h
    split at h <;> cases h
    exact pathsDotted_of_none rfl
  | transform t => cases h
  | _ =>
    cases h
    exact pathsDotted_of_none rfl

/-- **An expression refers to its own fields** and to no others. -/
theorem encodeExpression_pathsDotted {e : Expression} {v : Value} (plain : e.wireValues = [])
    (checked : checkExpression skipUndefined e = .ok ())
    (h : encodeExpression skipUndefined e = .ok v) : v.PathsDotted := by
  induction e using Expression.inductParts generalizing v with
  | field f =>
    cases h
    exact List.forall_mem_singleton.2 (checkField_eq_ok.1 checked)
  | constant c => exact encodeConstant_pathsDotted plain h
  | call name items ih | list items ih =>
    rw [Expression.wireValues, wireValuesWithin_eq, List.flatMap_eq_nil_iff] at plain
    rw [checkExpression, checkExpressions_eq_ok] at checked
    rw [encodeExpression, encodeExpressions_eq_mapM, bind_eq_ok] at h
    obtain ⟨vs, hvs, hv⟩ := h
    cases hv
    have parts : ∀ v ∈ vs, v.PathsDotted := by
      intro v hv
      obtain ⟨e, he, hev⟩ := (mem_mapM hvs).1 hv
      exact ih e he (plain e he) (checked e he) hev
    first | exact pathsDotted_call parts | exact pathsDotted_array parts
  | map entries ih =>
    rw [Expression.wireValues, wireValuesUnder_eq, List.flatMap_eq_nil_iff] at plain
    rw [checkExpression, checkNamed_eq_ok] at checked
    rw [encodeExpression, bind_eq_ok] at h
    obtain ⟨m, hm, hv⟩ := h
    cases hv
    rw [encodeNamedFrom_eq] at hm
    refine pathsDotted_map fun field hfield => ?_
    obtain ⟨entry, hentry, hv⟩ := of_mem_insertAll hm hfield
    exact ih entry hentry (plain entry hentry) (checked entry hentry) hv

end
end DocumentPipeline
