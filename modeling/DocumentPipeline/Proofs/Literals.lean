import DocumentPipeline.Json.Literal
import DocumentPipeline.Proofs.SortedMaps
import DocumentPipeline.Proofs.Success
import DocumentPipeline.Proofs.WholeNumbers

/-!
# The parts of a literal

* `Literal.inductParts`: what holds of a literal whenever it holds of its parts holds of every
  literal;
* `Literal.NumbersFit`: all numbers are ones that a tree can hold, and then every double read from
  the literal is finite;
* `member?_toMembers`, `fields?_ofMembers`: the members of a written record are found under their
  names.
-/

namespace DocumentPipeline

namespace Json

theorem toLiterals_eq (items : List Json) : toLiterals items = items.map toLiteral := by
  induction items with
  | nil => rfl
  | cons j rest ih => rw [toLiterals, ih, List.map_cons]

theorem toMembers_eq (members : List (String × Json)) :
    toMembers members = members.map fun member => (some member.1, member.2.toLiteral) := by
  induction members with
  | nil => rfl
  | cons member rest ih => rw [toMembers, ih, List.map_cons]

/-- A number that a tree can hold: an integer of 64 bits, with or without a sign, or a finite
double. -/
def Number.Fits : Number → Prop
  | .int n => -2 ^ 63 ≤ n ∧ n < 2 ^ 64
  | .double x => x.isFinite = true

namespace Literal

/-- The items of an array and the members of an object. -/
def parts : Literal → List Literal
  | .array items => items
  | .object members => members.map (·.2)
  | _ => []

/-- What holds of a literal when it holds of its parts holds of every literal. -/
theorem inductParts {P : Literal → Prop}
    (step : ∀ l : Literal, (∀ part ∈ l.parts, P part) → P l) : ∀ l, P l := by
  refine @Literal.rec P (fun items => ∀ l ∈ items, P l)
    (fun members => ∀ member ∈ members, P member.2)
    (fun member => P member.2) (step _ (by simp [parts])) (fun _ => step _ (by simp [parts]))
    (fun _ => step _ (by simp [parts])) (fun _ => step _ (by simp [parts]))
    (fun items ih => step _ ih)
    (fun members ih => step _ (List.forall_mem_map.2 ih)) (step _ (by simp [parts])) ?_ ?_ ?_ ?_
    (fun _ _ h => h)
  · simp
  · exact fun l rest hl hrest => List.forall_mem_cons.2 ⟨hl, hrest⟩
  · simp
  · exact fun member rest hmember hrest => List.forall_mem_cons.2 ⟨hmember, hrest⟩

mutual

/-- Every number in a literal is one that a tree can hold. -/
def NumbersFit : Literal → Prop
  | .number n => n.Fits
  | .array items => itemsFit items
  | .object members => membersFit members
  | _ => True

def itemsFit : List Literal → Prop
  | [] => True
  | l :: rest => l.NumbersFit ∧ itemsFit rest

def membersFit : List (Option String × Literal) → Prop
  | [] => True
  | (_, l) :: rest => l.NumbersFit ∧ membersFit rest

end

theorem itemsFit_iff {items : List Literal} : itemsFit items ↔ ∀ l ∈ items, l.NumbersFit := by
  induction items with
  | nil => simp [itemsFit]
  | cons l rest ih => rw [itemsFit, ih, List.forall_mem_cons]

theorem membersFit_iff {members : List (Option String × Literal)} :
    membersFit members ↔ ∀ member ∈ members, member.2.NumbersFit := by
  induction members with
  | nil => simp [membersFit]
  | cons member rest ih => rw [membersFit, ih, List.forall_mem_cons]

theorem NumbersFit.part {l part : Literal} (h : l.NumbersFit) (hpart : part ∈ l.parts) :
    part.NumbersFit := by
  cases l with
  | array items => exact itemsFit_iff.1 h part hpart
  | object members => exact List.forall_mem_map.2 (membersFit_iff.1 h) part hpart
  | _ => cases hpart

theorem NumbersFit.double {l : Literal} {x : Double} (h : l.NumbersFit) (hx : l.double? = some x) :
    x.isFinite = true := by
  cases l with
  | number n =>
    cases n with
    | int n =>
      cases hx
      exact Double.isFinite_ofInt (by simp only [NumbersFit, Number.Fits] at h; omega)
    | double y =>
      cases hx
      exact h
  | _ => cases hx

theorem mem_of_member? {name : String} {members : List (Option String × Literal)} {l : Literal}
    (h : member? name members = some (some l)) : l ∈ (Literal.object members).parts := by
  induction members with
  | nil => cases h
  | cons member rest ih =>
    obtain ⟨key, part⟩ := member
    cases key with
    | none => cases h
    | some key =>
      simp only [member?] at h
      split at h
      · cases h
      · next later found =>
        split at h
        · split at h
          · cases h
          · cases h
            exact List.mem_cons_self
        · cases h
          exact List.mem_cons_of_mem _ (ih found)

/-- What is read as a field of a record is a part of it. -/
theorem mem_of_fields? {names : List String} {l : Literal} {fields : List (Option Literal)}
    (h : l.fields? names = some fields) : ∀ part, some part ∈ fields → part ∈ l.parts := by
  intro part hpart
  cases l with
  | object members =>
    obtain ⟨name, -, hname⟩ := exists_of_mem_mapM h hpart
    exact mem_of_member? hname
  | array items =>
    simp only [fields?] at h
    split at h
    · cases h
      obtain hpart | hpart := List.mem_append.1 hpart
      · obtain ⟨item, hitem, same⟩ := List.mem_map.1 hpart
        cases same
        exact hitem
      · cases List.eq_of_mem_replicate hpart
    · cases h
  | _ => cases h

end Literal

/-- The members of a map that is written are found under their names. -/
theorem member?_toMembers {m : FieldMap Json} (h : m.Sorted) (name : String) :
    Literal.member? name (toMembers m) = some ((m.get? name).map toLiteral) := by
  induction m with
  | nil => rfl
  | cons entry rest ih =>
    obtain ⟨key, j⟩ := entry
    obtain ⟨before, hrest⟩ := List.pairwise_cons.1 h
    rw [toMembers, Literal.member?, ih hrest, FieldMap.get?]
    by_cases same : key = name
    · have absent : FieldMap.get? name rest = none :=
        FieldMap.get?_eq_none fun entry hentry => (same ▸ before entry hentry).ne'
      simp [same, absent]
    · simp [same]

theorem fields?_ofMembers (entries : List (String × Json)) (names : List String) :
    (Json.ofMembers entries).toLiteral.fields? names =
      some (names.map fun name => ((FieldMap.ofList entries).get? name).map toLiteral) := by
  rw [ofMembers, toLiteral, Literal.fields?]
  simp only [member?_toMembers (FieldMap.sorted_ofList entries)]
  exact List.mapM_pure

end Json
end DocumentPipeline
