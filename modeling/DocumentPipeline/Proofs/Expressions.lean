import DocumentPipeline.Proofs.Nesting

/-!
# Expressions that can be sent

Checking and encoding are two walks over the same tree:

* `Dotted`: paths without an empty segment, the only ones that a check lets through;
* `checkConstant_eq_ok`: a literal passes its check, wherever it stands, when it has a wire form;
* `checkExpression_eq_ok`: an expression passes its check when it has a wire form and every field
  in it has a dotted path.
-/

namespace DocumentPipeline

/-- A dotted path: nothing between its dots is empty. -/
def Dotted (path : String) : Prop := "" ∉ Text.split '.' path

instance : DecidablePred Dotted :=
  fun path => inferInstanceAs (Decidable ("" ∉ Text.split '.' path))

theorem Dotted.ne_empty {path : String} (h : Dotted path) : path ≠ "" := by
  rintro rfl
  exact h (by decide)

mutual

/-- The fields that stand in an expression. -/
def Expression.fields : Expression → List Field
  | .field f => [f]
  | .constant _ => []
  | .call _ arguments => fieldsOfItems arguments
  | .list items => fieldsOfItems items
  | .map entries => fieldsOfEntries entries

def fieldsOfItems : List Expression → List Field
  | [] => []
  | e :: rest => e.fields ++ fieldsOfItems rest

def fieldsOfEntries : List (String × Expression) → List Field
  | [] => []
  | (_, e) :: rest => e.fields ++ fieldsOfEntries rest

end

theorem fieldsOfItems_eq (items : List Expression) :
    fieldsOfItems items = items.flatMap (·.fields) := by
  induction items with
  | nil => rfl
  | cons e rest ih => rw [fieldsOfItems, ih, List.flatMap_cons]

theorem fieldsOfEntries_eq (entries : List (String × Expression)) :
    fieldsOfEntries entries = entries.flatMap (·.2.fields) := by
  induction entries with
  | nil => rfl
  | cons entry rest ih => rw [fieldsOfEntries, ih, List.flatMap_cons]

theorem Constant.isUndefined_iff {c : Constant} : c.isUndefined = true ↔ c = .undefined := by
  cases c <;> simp [isUndefined]

theorem Encoding.isUndefined_iff {e : Expression} :
    isUndefined e = true ↔ e = .constant .undefined := by
  cases e <;> simp [isUndefined, Constant.isUndefined_iff]

section
variable {skipUndefined : Bool}

open Wire (Value)
open Validation Encoding

/-- The entries of a map have a wire form together when those that are kept have one each. -/
theorem kept_succeeds {α : Type} {dropped : α → Bool} {encode : α → Encoded Value}
    {entries : List (String × α)} {before : FieldMap Value} :
    (∃ m, (do
      let fields ← (kept dropped entries).mapM (encodeUnder encode)
      return FieldMap.insertAll fields before) = Except.ok m) ↔
    ∀ entry ∈ entries, dropped entry.2 = true ∨ ∃ v, encode entry.2 = .ok v := by
  rw [bind_return_succeeds, mapM_succeeds]
  simp only [kept, List.mem_filter, encodeUnder, bind_return_succeeds, Bool.not_eq_true', and_imp]
  refine forall₂_congr fun entry _ => ?_
  cases dropped entry.2 <;> simp

/-- **A literal passes its check when it has a wire form.** Its location makes no difference. -/
theorem checkConstant_eq_ok {location : Option String} {c : Constant} :
    checkConstant skipUndefined location c = .ok () ↔
      ∃ v, encodeConstant skipUndefined c = .ok v := by
  induction c using Constant.inductParts generalizing location with
  | array items ih =>
    simp only [checkConstant, checkItems_eq_forM, forM_eq_ok, encodeConstant,
      encodeConstants_eq_mapM, bind_return_succeeds, mapM_succeeds]
    exact forall₂_congr fun c hc => ih c hc
  | map entries ih =>
    simp only [checkConstant, checkEntries_eq_forM, forM_eq_ok, encodeConstant, encodeEntries_eq]
    rw [bind_return_succeeds, kept_succeeds]
    refine forall₂_congr fun entry hentry => ?_
    rw [ih entry hentry, or_iff_right_of_imp]
    intro dropped
    obtain ⟨rfl, undefined⟩ := Bool.and_eq_true_iff.1 dropped
    simp [Constant.isUndefined_iff.1 undefined, encodeConstant]
  | undefined => cases skipUndefined <;> simp [checkConstant, encodeConstant]
  | _ => simp [checkConstant, encodeConstant]

theorem checkField_eq_ok {f : Field} : checkField f = .ok () ↔ Dotted f.path := by
  simp only [checkField, Dotted, Field.segments]
  by_cases empty : f.path = ""
  · simp [empty, show "" ∈ Text.split '.' "" by decide]
  · by_cases h : "" ∈ Text.split '.' f.path <;> simp [empty, h]

/-- A named expression passes its check when it does so without its name. -/
theorem checkEntry_eq_ok {entry : String × Expression} :
    checkEntry skipUndefined entry = .ok () ↔ checkExpression skipUndefined entry.2 = .ok () := by
  obtain ⟨key, e⟩ := entry
  cases e <;> simp [checkEntry, checkExpression, checkConstant_eq_ok]

theorem checkExpressions_eq_ok {items : List Expression} :
    checkExpressions skipUndefined items = .ok () ↔
      ∀ e ∈ items, checkExpression skipUndefined e = .ok () := by
  rw [checkExpressions_eq_forM, forM_eq_ok]

theorem checkNamed_eq_ok {entries : List (String × Expression)} :
    checkNamed skipUndefined entries = .ok () ↔
      ∀ entry ∈ entries, checkExpression skipUndefined entry.2 = .ok () := by
  simp only [checkNamed_eq_forM, forM_eq_ok, checkEntry_eq_ok]

theorem encodeExpressions_succeeds {items : List Expression} :
    (∃ vs, encodeExpressions skipUndefined items = .ok vs) ↔
      ∀ e ∈ items, ∃ v, encodeExpression skipUndefined e = .ok v := by
  rw [encodeExpressions_eq_mapM, mapM_succeeds]

theorem encodeNamedFrom_succeeds {entries : List (String × Expression)} {before : FieldMap Value} :
    (∃ m, encodeNamedFrom skipUndefined entries before = .ok m) ↔
      ∀ entry ∈ entries, ∃ v, encodeExpression skipUndefined entry.2 = .ok v := by
  rw [encodeNamedFrom_eq, kept_succeeds]
  refine forall₂_congr fun entry _ => or_iff_right_of_imp fun dropped => ?_
  obtain ⟨rfl, undefined⟩ := Bool.and_eq_true_iff.1 dropped
  simp [isUndefined_iff.1 undefined, encodeExpression, encodeConstant]

/-- **An expression passes its check when it has a wire form and its fields have dotted paths.** -/
theorem checkExpression_eq_ok {e : Expression} :
    checkExpression skipUndefined e = .ok () ↔
      (∀ f ∈ e.fields, Dotted f.path) ∧ ∃ v, encodeExpression skipUndefined e = .ok v := by
  have parts {α : Type} {items : List α} (part : α → Expression)
      (ih : ∀ a ∈ items, checkExpression skipUndefined (part a) = .ok () ↔
        (∀ f ∈ (part a).fields, Dotted f.path) ∧
          ∃ v, encodeExpression skipUndefined (part a) = .ok v) :
      (∀ a ∈ items, checkExpression skipUndefined (part a) = .ok ()) ↔
        (∀ f ∈ items.flatMap fun a => (part a).fields, Dotted f.path) ∧
          ∀ a ∈ items, ∃ v, encodeExpression skipUndefined (part a) = .ok v := by
    rw [forall₂_congr ih]
    simp only [List.mem_flatMap]
    exact ⟨fun h => ⟨fun f ⟨a, ha, hf⟩ => (h a ha).1 f hf, fun a ha => (h a ha).2⟩,
      fun h a ha => ⟨fun f hf => h.1 f ⟨a, ha, hf⟩, h.2 a ha⟩⟩
  induction e using Expression.inductParts with
  | field f => simp [checkExpression, Expression.fields, encodeExpression, checkField_eq_ok]
  | constant c =>
    simp [checkExpression, Expression.fields, encodeExpression, checkConstant_eq_ok]
  | call name arguments ih =>
    rw [checkExpression, checkExpressions_eq_ok, encodeExpression, bind_return_succeeds,
      encodeExpressions_succeeds, Expression.fields, fieldsOfItems_eq]
    exact parts id ih
  | list items ih =>
    rw [checkExpression, checkExpressions_eq_ok, encodeExpression, bind_return_succeeds,
      encodeExpressions_succeeds, Expression.fields, fieldsOfItems_eq]
    exact parts id ih
  | map entries ih =>
    rw [checkExpression, checkNamed_eq_ok, encodeExpression, bind_return_succeeds,
      encodeNamedFrom_succeeds, Expression.fields, fieldsOfEntries_eq]
    exact parts Prod.snd ih

end
end DocumentPipeline
