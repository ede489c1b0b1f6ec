import DocumentPipeline.Encoding
import DocumentPipeline.Proofs.SortedMaps
import DocumentPipeline.Proofs.Success
import DocumentPipeline.Validation

/-!
# Literals and expressions as trees

Induction over the parts of a literal or an expression, and the walks over them as traversals of
lists:

* `Constant.inductParts`, `Expression.inductParts`: what holds of a tree whenever it holds of its
  parts holds of every tree;
* `checkNamed_eq_forM` and its like: a check of a list stops at the first item that fails;
* `encodeEntries_eq`, `encodeNamedFrom_eq`: the entries of a map that are kept are encoded in their
  order and then put into the map one after the other.
-/

namespace DocumentPipeline

theorem map_eq_self_iff {α : Type} {f : α → α} {l : List α} :
    l.map f = l ↔ ∀ a ∈ l, f a = a := by
  conv_lhs => rhs; rw [← List.map_id l]
  exact List.map_inj_left

/-- What holds of a literal when it holds of its parts holds of every literal. The literals inside a
field transform are no parts: a transform is never sent. -/
theorem Constant.inductParts {P : Constant → Prop} (null : P .null)
    (boolean : ∀ b, P (.boolean b)) (integer : ∀ n, P (.integer n)) (double : ∀ x, P (.double x))
    (string : ∀ s, P (.string s)) (bytes : ∀ b, P (.bytes b)) (timestamp : ∀ t, P (.timestamp t))
    (geoPoint : ∀ p, P (.geoPoint p)) (vector : ∀ xs, P (.vector xs))
    (reference : ∀ d, P (.reference d))
    (array : ∀ items, (∀ c ∈ items, P c) → P (.array items))
    (map : ∀ entries, (∀ entry ∈ entries, P entry.2) → P (.map entries))
    (undefined : P .undefined) (transform : ∀ t, P (.transform t)) (wire : ∀ v, P (.wire v)) :
    ∀ c, P c := by
  refine @Constant.rec P (fun _ => True) (fun items => ∀ c ∈ items, P c)
    (fun entries => ∀ entry ∈ entries, P entry.2) (fun entry => P entry.2) null boolean integer
    double string bytes timestamp geoPoint vector reference array map undefined
    (fun t _ => transform t) wire trivial trivial (fun _ _ => trivial) (fun _ _ => trivial)
    (fun _ _ => trivial) ?_ ?_ ?_ ?_ (fun _ _ h => h)
  · simp
  · exact fun c rest hc hrest => List.forall_mem_cons.2 ⟨hc, hrest⟩
  · simp
  · exact fun entry rest he hrest => List.forall_mem_cons.2 ⟨he, hrest⟩

theorem Expression.inductParts {P : Expression → Prop} (field : ∀ f, P (.field f))
    (constant : ∀ c, P (.constant c))
    (call : ∀ name arguments, (∀ e ∈ arguments, P e) → P (.call name arguments))
    (list : ∀ items, (∀ e ∈ items, P e) → P (.list items))
    (map : ∀ entries, (∀ entry ∈ entries, P entry.2) → P (.map entries)) : ∀ e, P e := by
  refine @Expression.rec P (fun items => ∀ e ∈ items, P e)
    (fun entries => ∀ entry ∈ entries, P entry.2) (fun entry => P entry.2) field constant call list
    map ?_ ?_ ?_ ?_ (fun _ _ h => h)
  · simp
  · exact fun e rest he hrest => List.forall_mem_cons.2 ⟨he, hrest⟩
  · simp
  · exact fun entry rest he hrest => List.forall_mem_cons.2 ⟨he, hrest⟩

namespace Validation
variable (skipUndefined : Bool) (location : Option String)

theorem checkItems_eq_forM (items : List Constant) :
    checkItems skipUndefined location items =
      items.forM (checkConstant skipUndefined location) := by
  induction items with
  | nil => rfl
  | cons c rest ih => simp only [checkItems, ih]; rfl

theorem checkEntries_eq_forM (entries : List (String × Constant)) :
    checkEntries skipUndefined location entries =
      entries.forM fun entry =>
        checkConstant skipUndefined (some (below location entry.1)) entry.2 := by
  induction entries with
  | nil => rfl
  | cons entry rest ih => simp only [checkEntries, ih]; rfl

theorem checkExpressions_eq_forM (items : List Expression) :
    checkExpressions skipUndefined items = items.forM (checkExpression skipUndefined) := by
  induction items with
  | nil => rfl
  | cons e rest ih => simp only [checkExpressions, ih]; rfl

/-- The check of one named expression. -/
def checkEntry (entry : String × Expression) : Check :=
  match entry.2 with
  | .constant c => checkConstant skipUndefined (some entry.1) c
  | e => checkExpression skipUndefined e

theorem checkNamed_eq_forM (entries : List (String × Expression)) :
    checkNamed skipUndefined entries = entries.forM (checkEntry skipUndefined) := by
  induction entries with
  | nil => rfl
  | cons entry rest ih =>
    obtain ⟨key, e⟩ := entry
    cases e <;> simp only [checkNamed, ih] <;> rfl

end Validation

namespace Encoding
variable (skipUndefined : Bool)

open Wire (Value)

theorem encodeConstants_eq_mapM (items : List Constant) :
    encodeConstants skipUndefined items = items.mapM (encodeConstant skipUndefined) := by
  induction items with
  | nil => rfl
  | cons c rest ih => simp only [encodeConstants, ih, List.mapM_cons]

theorem encodeExpressions_eq_mapM (items : List Expression) :
    encodeExpressions skipUndefined items = items.mapM (encodeExpression skipUndefined) := by
  induction items with
  | nil => rfl
  | cons e rest ih => simp only [encodeExpressions, ih, List.mapM_cons]

section
variable {α : Type}

/-- The entries of a map that are sent: all but those whose values are dropped. -/
def kept (dropped : α → Bool) (entries : List (String × α)) : List (String × α) :=
  entries.filter fun entry => !dropped entry.2

/-- A value under its key. -/
def encodeUnder (encode : α → Encoded Value) (entry : String × α) : Encoded (String × Value) := do
  return (entry.1, ← encode entry.2)

/-- A walk that encodes each entry as it comes to it, and passes over those to be dropped, does the
same as encoding all entries that are kept and putting them into the map afterwards. -/
theorem walk_eq {dropped : α → Bool} {encode : α → Encoded Value}
    {walk : List (String × α) → FieldMap Value → Encoded (FieldMap Value)}
    (nil : ∀ before, walk [] before = .ok before)
    (cons : ∀ key a rest before, walk ((key, a) :: rest) before =
      if dropped a then walk rest before
      else do
        let v ← encode a
        walk rest (before.insert key v))
    (entries : List (String × α)) (before : FieldMap Value) :
    walk entries before = (do
      let fields ← (kept dropped entries).mapM (encodeUnder encode)
      return FieldMap.insertAll fields before) := by
  induction entries generalizing before with
  | nil => exact nil before
  | cons entry rest ih =>
    obtain ⟨key, a⟩ := entry
    simp only [cons, kept, List.filter_cons] at ih ⊢
    cases dropped a with
    | true => exact ih before
    | false =>
      simp only [ih, Bool.false_eq_true, if_false, Bool.not_false, if_true, List.mapM_cons,
        encodeUnder, bind_assoc, pure_bind]
      rfl

end

theorem encodeEntries_eq (entries : List (String × Constant)) (before : FieldMap Value) :
    encodeEntries skipUndefined entries before = (do
      let fields ← (kept (fun c => skipUndefined && c.isUndefined) entries).mapM
        (encodeUnder (encodeConstant skipUndefined))
      return FieldMap.insertAll fields before) :=
  walk_eq (fun _ => by simp only [encodeEntries]) (fun _ _ _ _ => by simp only [encodeEntries])
    entries before

theorem encodeNamedFrom_eq (entries : List (String × Expression)) (before : FieldMap Value) :
    encodeNamedFrom skipUndefined entries before = (do
      let fields ← (kept (fun e => skipUndefined && isUndefined e) entries).mapM
        (encodeUnder (encodeExpression skipUndefined))
      return FieldMap.insertAll fields before) :=
  walk_eq (fun _ => by simp only [encodeNamedFrom])
    (fun _ _ _ _ => by simp only [encodeNamedFrom]) entries before

end Encoding
end DocumentPipeline
