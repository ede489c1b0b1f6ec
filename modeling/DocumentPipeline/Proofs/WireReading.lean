import DocumentPipeline.Proofs.Literals
import DocumentPipeline.Proofs.WireValues
import DocumentPipeline.Wire.Reader

/-!
# What is read as a wire value

* `Value.Sorted`, `Value.doubles`: the maps of a value in the order of their keys, and all doubles
  in it;
* `itemList?_eq_mapM`, `fieldList?_eq`, `itemsMember?_eq` and their like: the reader as traversals
  of lists and as a look-up of members;
* `readsRegular`: whatever is read from a literal whose numbers fit has sorted maps and finite
  doubles only.
-/

namespace DocumentPipeline.Wire

open Json (Literal)

/-- The maps that a value holds itself are sorted by key. -/
def Value.KeysSorted : Value → Prop
  | .map fields => FieldMap.Sorted fields
  | .function _ _ options => FieldMap.Sorted options
  | .pipeline stages => ∀ s ∈ stages, FieldMap.Sorted s.options
  | _ => True

/-- All maps in a value are sorted by key, at any depth. -/
def Value.Sorted (v : Value) : Prop := ∀ u ∈ v.within, u.KeysSorted

def Stage.Sorted (s : Stage) : Prop := FieldMap.Sorted s.options ∧ ∀ v ∈ s.parts, v.Sorted

/-- The doubles that a value holds itself. -/
def Value.ownDoubles : Value → List Double
  | .double x => [x]
  | .geoPoint p => [p.latitude, p.longitude]
  | _ => []

/-- All doubles in a value, at any depth. -/
def Value.doubles (v : Value) : List Double := v.within.flatMap (·.ownDoubles)

/-- All doubles in the arguments and the options of a stage. -/
def Stage.doubles (s : Stage) : List Double := s.within.flatMap (·.ownDoubles)

theorem Value.sorted_iff {v : Value} : v.Sorted ↔ v.KeysSorted ∧ ∀ part ∈ v.parts, part.Sorted :=
  forall_within

theorem Value.doubles_eq (v : Value) : v.doubles = v.ownDoubles ++ v.parts.flatMap (·.doubles) := by
  rw [doubles, v.within_eq, List.flatMap_cons, List.flatMap_assoc]
  rfl

theorem Stage.doubles_eq (s : Stage) : s.doubles = s.parts.flatMap (·.doubles) := by
  rw [doubles, s.within_eq, List.flatMap_assoc]
  rfl

section Reader

theorem itemList?_eq_mapM (items : List Literal) :
    itemList? items = items.mapM Value.ofLiteral? := by
  induction items with
  | nil => rfl
  | cons l rest ih => rw [itemList?, ih, List.mapM_cons]

theorem stageList?_eq_mapM (items : List Literal) :
    stageList? items = items.mapM Stage.ofLiteral? := by
  induction items with
  | nil => rfl
  | cons l rest ih =>
    rw [stageList?, ih, List.mapM_cons, Stage.ofLiteral?]
    cases parts? l <;> rfl

/-- A value under its name. -/
def readUnder (member : Option String × Literal) : Option (String × Value) := do
  let key ← member.1
  return (key, ← Value.ofLiteral? member.2)

/-- The fields of a map are read one by one and then put into the map. -/
theorem fieldList?_eq (members : List (Option String × Literal)) (before : FieldMap Value) :
    fieldList? members before =
      (members.mapM readUnder).map (FieldMap.insertAll · before) := by
  induction members generalizing before with
  | nil => rfl
  | cons member rest ih =>
    obtain ⟨key, l⟩ := member
    rw [fieldList?, List.mapM_cons]
    cases key with
    | none => rfl
    | some key =>
      cases hv : Value.ofLiteral? l with
      | none => simp [readUnder, hv]
      | some v =>
        simp only [readUnder, hv, ih, Option.bind_eq_bind, Option.bind_some, Option.pure_def]
        cases rest.mapM readUnder <;> rfl

/-- A walk that looks for a name and reads what stands under it, and fails when the name comes
twice, does the same as looking the name up first. -/
theorem member_walk_eq {α : Type} {name : String} {read : Literal → Option α}
    {walk : List (Option String × Literal) → Option (Option α)}
    (nil : walk [] = some none) (unnamed : ∀ l rest, walk ((none, l) :: rest) = none)
    (named : ∀ key l rest, walk ((some key, l) :: rest) = (do
      let later ← walk rest
      if key = name then
        if later.isSome then none else (read l).map some
      else some later))
    (members : List (Option String × Literal)) :
    walk members = (Literal.member? name members).bind fun found =>
      found.elim (some none) fun l => (read l).map some := by
  induction members with
  | nil => exact nil
  | cons member rest ih =>
    obtain ⟨key, l⟩ := member
    cases key with
    | none => exact unnamed l rest
    | some key =>
      rw [named, ih, Literal.member?]
      cases found : Literal.member? name rest with
      | none => rfl
      | some later =>
        by_cases same : key = name
        · cases later with
          | none => simp [same]
          | some l' => cases hr : read l' <;> simp [same, hr]
        · cases later with
          | none => simp [same]
          | some l' => cases hr : read l' <;> simp [same, hr]

/-- What stands under a name is read from a part of the record, if the name is there. -/
theorem of_member {α : Type} {name : String} {members : List (Option String × Literal)}
    {read : Literal → Option α} {a : Option α}
    (h : ((Literal.member? name members).bind fun found =>
      found.elim (some none) fun l => (read l).map some) = some a) :
    a = none ∨ ∃ l ∈ (Literal.object members).parts, ∃ x, read l = some x ∧ a = some x := by
  obtain ⟨found, hfound, h⟩ := Option.bind_eq_some_iff.1 h
  cases found with
  | none =>
    cases h
    exact .inl rfl
  | some l =>
    obtain ⟨x, hx, rfl⟩ := Option.map_eq_some_iff.1 h
    exact .inr ⟨l, Literal.mem_of_member? hfound, x, hx, rfl⟩

variable (name : String) (members : List (Option String × Literal))

theorem itemsMember?_eq : itemsMember? name members =
    (Literal.member? name members).bind fun found =>
      found.elim (some none) fun l => (items? l).map some :=
  member_walk_eq (by rw [itemsMember?]) (fun _ _ => by rw [itemsMember?])
    (fun _ _ _ => by rw [itemsMember?]) members

theorem fieldsMember?_eq : fieldsMember? name members =
    (Literal.member? name members).bind fun found =>
      found.elim (some none) fun l => (fields? l).map some :=
  member_walk_eq (by rw [fieldsMember?]) (fun _ _ => by rw [fieldsMember?])
    (fun _ _ _ => by rw [fieldsMember?]) members

theorem stagesMember?_eq : stagesMember? name members =
    (Literal.member? name members).bind fun found =>
      found.elim (some none) fun l => (stages? l).map some :=
  member_walk_eq (by rw [stagesMember?]) (fun _ _ => by rw [stagesMember?])
    (fun _ _ _ => by rw [stagesMember?]) members

end Reader

/-- Sorted maps and finite doubles only. -/
def Value.Regular (v : Value) : Prop := v.Sorted ∧ ∀ x ∈ v.doubles, x.isFinite = true

def FieldsRegular (m : FieldMap Value) : Prop := m.Sorted ∧ ∀ field ∈ m, field.2.Regular

def Stage.Regular (s : Stage) : Prop := (∀ v ∈ s.arguments, v.Regular) ∧ FieldsRegular s.options

theorem Stage.Regular.parts {s : Stage} (h : s.Regular) : ∀ v ∈ s.parts, v.Regular :=
  List.forall_mem_append.2 ⟨h.1, List.forall_mem_map.2 h.2.2⟩

theorem Stage.Regular.sorted {s : Stage} (h : s.Regular) : s.Sorted :=
  ⟨h.2.1, fun v hv => (h.parts v hv).1⟩

theorem Stage.Regular.finite {s : Stage} (h : s.Regular) : ∀ x ∈ s.doubles, x.isFinite = true := by
  rw [s.doubles_eq, List.forall_mem_flatMap]
  exact fun v hv => (h.parts v hv).2

theorem Value.regular_of_parts {v : Value} (keys : v.KeysSorted)
    (own : ∀ x ∈ v.ownDoubles, x.isFinite = true) (parts : ∀ part ∈ v.parts, part.Regular) :
    v.Regular := by
  refine ⟨sorted_iff.2 ⟨keys, fun part hpart => (parts part hpart).1⟩, ?_⟩
  rw [v.doubles_eq, List.forall_mem_append, List.forall_mem_flatMap]
  exact ⟨own, fun part hpart => (parts part hpart).2⟩

theorem regular_pipeline {stages : List Stage} (h : ∀ s ∈ stages, s.Regular) :
    (Value.pipeline stages).Regular :=
  Value.regular_of_parts (fun s hs => (h s hs).2.1) nofun
    (List.forall_mem_flatMap.2 fun s hs => (h s hs).parts)

/-- What a literal gives when it is read in each of the ways there are. -/
structure ReadsRegular (l : Literal) : Prop where
  value : ∀ v, Value.ofLiteral? l = some v → v.Regular
  items : ∀ vs, items? l = some vs → ∀ v ∈ vs, v.Regular
  fields : ∀ m, fields? l = some m → FieldsRegular m
  stages : ∀ ss, stages? l = some ss → ∀ s ∈ ss, s.Regular
  arrayContent : ∀ vs, arrayContent? l = some vs → ∀ v ∈ vs, v.Regular
  mapContent : ∀ m, mapContent? l = some m → FieldsRegular m
  parts : ∀ name arguments options, parts? l = some (name, arguments, options) →
    (∀ v ∈ arguments, v.Regular) ∧ FieldsRegular options
  pipeline : ∀ ss, pipeline? l = some ss → ∀ s ∈ ss, s.Regular

/-- A value that holds no others and no double. -/
def Value.Plain (v : Value) : Prop := v.parts = [] ∧ v.ownDoubles = [] ∧ v.KeysSorted

theorem of_ite {α : Type} {p : Prop} [Decidable p] {a b c : α} (h : (if p then a else b) = c) :
    a = c ∨ b = c := by
  by_cases hp : p
  · exact .inl (by rwa [if_pos hp] at h)
  · exact .inr (by rwa [if_neg hp] at h)

/-- How a value comes from the content of its tag. -/
inductive Value.ReadFrom (content : Literal) : Value → Prop where
  | plain {v : Value} (h : v.Plain) : ReadFrom content v
  | double {x : Double} (h : content.double? = some x) : ReadFrom content (.double x)
  | geoPoint {p : GeoPoint} (h : GeoPoint.ofLiteral? content = some p) :
    ReadFrom content (.geoPoint p)
  | array {vs : List Value} (h : arrayContent? content = some vs) : ReadFrom content (.array vs)
  | map {m : FieldMap Value} (h : mapContent? content = some m) : ReadFrom content (.map m)
  | function {name : String} {arguments : List Value} {options : FieldMap Value}
    (h : parts? content = some (name, arguments, options)) :
    ReadFrom content (.function name arguments options)
  | pipeline {ss : List Stage} (h : pipeline? content = some ss) : ReadFrom content (.pipeline ss)

/-- A value that is no bare string is read from the content of its tag. -/
theorem Value.ofLiteral?_cases {l : Literal} {v : Value} (h : Value.ofLiteral? l = some v) :
    v.Plain ∨ ∃ content ∈ l.parts, ReadFrom content v := by
  unfold Value.ofLiteral? at h
  split at h
  · split at h <;> cases h
    exact .inl ⟨rfl, rfl, trivial⟩
  · next tag content =>
    refine .inr ⟨content, List.mem_cons_self, ?_⟩
    -- The tags in the order in which the reader tries them.
    obtain h | h := of_ite h
    · split at h <;> cases h
      exact .plain ⟨rfl, rfl, trivial⟩
    have plain {α : Type} {r : Option α} {f : α → Value} (h : r.map f = some v)
        (hf : ∀ a, (f a).Plain) : ReadFrom content v := by
      obtain ⟨a, -, rfl⟩ := Option.map_eq_some_iff.1 h
      exact .plain (hf a)
    obtain h | h := of_ite h
    · exact plain h fun _ => ⟨rfl, rfl, trivial⟩
    obtain h | h := of_ite h
    · exact plain h fun _ => ⟨rfl, rfl, trivial⟩
    obtain h | h := of_ite h
    · obtain ⟨x, hx, rfl⟩ := Option.map_eq_some_iff.1 h
      exact .double hx
    obtain h | h := of_ite h
    · exact plain h fun _ => ⟨rfl, rfl, trivial⟩
    obtain h | h := of_ite h
    · exact plain h fun _ => ⟨rfl, rfl, trivial⟩
    obtain h | h := of_ite h
    · exact plain h fun _ => ⟨rfl, rfl, trivial⟩
    obtain h | h := of_ite h
    · exact plain h fun _ => ⟨rfl, rfl, trivial⟩
    obtain h | h := of_ite h
    · obtain ⟨p, hp, rfl⟩ := Option.map_eq_some_iff.1 h
      exact .geoPoint hp
    obtain h | h := of_ite h
    · obtain ⟨vs, hvs, rfl⟩ := Option.map_eq_some_iff.1 h
      exact .array hvs
    obtain h | h := of_ite h
    · obtain ⟨m, hm, rfl⟩ := Option.map_eq_some_iff.1 h
      exact .map hm
    obtain h | h := of_ite h
    · exact plain h fun _ => ⟨rfl, rfl, trivial⟩
    obtain h | h := of_ite h
    · obtain ⟨⟨name, arguments, options⟩, hparts, rfl⟩ := Option.map_eq_some_iff.1 h
      exact .function hparts
    obtain h | h := of_ite h
    · obtain ⟨ss, hss, rfl⟩ := Option.map_eq_some_iff.1 h
      exact .pipeline hss
    cases h
  · cases h

theorem geoPoint_finite {l : Literal} {p : GeoPoint} (fit : l.NumbersFit)
    (h : GeoPoint.ofLiteral? l = some p) :
    p.latitude.isFinite = true ∧ p.longitude.isFinite = true := by
  obtain ⟨fields, hfields, h⟩ := Option.bind_eq_some_iff.1 h
  have parts := Literal.mem_of_fields? hfields
  split at h
  · next latitude longitude =>
    obtain ⟨x, hx, h⟩ := Option.bind_eq_some_iff.1 h
    obtain ⟨y, hy, h⟩ := Option.bind_eq_some_iff.1 h
    cases h
    exact ⟨(fit.part (parts latitude (by simp))).double hx,
      (fit.part (parts longitude (by simp))).double hy⟩
  · cases h

section
variable {l : Literal} (inner : ∀ part ∈ l.parts, ReadsRegular part)
include inner

theorem value_regular (fit : l.NumbersFit) {v : Value} (h : Value.ofLiteral? l = some v) :
    v.Regular := by
  have of_plain {v : Value} (h : v.Plain) : v.Regular := by
    obtain ⟨noParts, noDoubles, keys⟩ := h
    exact Value.regular_of_parts keys (by simp [noDoubles]) (by simp [noParts])
  obtain plain | ⟨content, hcontent, source⟩ := Value.ofLiteral?_cases h
  · exact of_plain plain
  have reads := inner content hcontent
  clear h
  cases source with
  | plain h => exact of_plain h
  | double h =>
    exact Value.regular_of_parts trivial
      (List.forall_mem_singleton.2 ((fit.part hcontent).double h)) nofun
  | geoPoint h =>
    obtain ⟨latitude, longitude⟩ := geoPoint_finite (fit.part hcontent) h
    exact Value.regular_of_parts trivial
      (List.forall_mem_cons.2 ⟨latitude, List.forall_mem_singleton.2 longitude⟩) nofun
  | array h => exact Value.regular_of_parts trivial nofun (reads.arrayContent _ h)
  | map h =>
    obtain ⟨sorted, fields⟩ := reads.mapContent _ h
    exact Value.regular_of_parts sorted nofun (List.forall_mem_map.2 fields)
  | function h =>
    obtain ⟨arguments, sorted, options⟩ := reads.parts _ _ _ h
    exact Value.regular_of_parts sorted nofun
      (List.forall_mem_append.2 ⟨arguments, List.forall_mem_map.2 options⟩)
  | pipeline h => exact regular_pipeline (reads.pipeline _ h)

theorem items_regular {vs : List Value} (h : items? l = some vs) : ∀ v ∈ vs, v.Regular := by
  intro v hv
  cases l with
  | array items =>
    rw [items?, itemList?_eq_mapM] at h
    obtain ⟨item, hitem, hv⟩ := exists_of_mem_mapM h hv
    exact (inner item hitem).value v hv
  | _ => cases h

theorem fields_regular {m : FieldMap Value} (h : fields? l = some m) : FieldsRegular m := by
  cases l with
  | object members =>
    rw [fields?, fieldList?_eq] at h
    obtain ⟨fields, hfields, rfl⟩ := Option.map_eq_some_iff.1 h
    refine ⟨FieldMap.Sorted.insertAll List.Pairwise.nil fields, fun field hfield => ?_⟩
    obtain hfield | hfield := FieldMap.mem_insertAll hfield
    · obtain ⟨member, hmember, hunder⟩ := exists_of_mem_mapM hfields hfield
      obtain ⟨key, -, hunder⟩ := Option.bind_eq_some_iff.1 hunder
      obtain ⟨v, hv, hunder⟩ := Option.bind_eq_some_iff.1 hunder
      cases hunder
      exact (inner member.2 (List.mem_map_of_mem hmember)).value v hv
    · cases hfield
  | _ => cases h

theorem stages_regular {ss : List Stage} (h : stages? l = some ss) : ∀ s ∈ ss, s.Regular := by
  intro s hs
  cases l with
  | array items =>
    rw [stages?, stageList?_eq_mapM] at h
    obtain ⟨item, hitem, hs⟩ := exists_of_mem_mapM h hs
    obtain ⟨⟨name, arguments, options⟩, hparts, rfl⟩ := Option.map_eq_some_iff.1 hs
    exact (inner item hitem).parts name arguments options hparts
  | _ => cases h

theorem itemsMember_regular {members : List (Option String × Literal)}
    (same : l = .object members) {name : String} {vs : Option (List Value)}
    (h : itemsMember? name members = some vs) : ∀ v ∈ vs.getD [], v.Regular := by
  subst same
  rw [itemsMember?_eq] at h
  obtain rfl | ⟨part, hpart, vs, hvs, rfl⟩ := of_member h
  · exact nofun
  · exact (inner part hpart).items vs hvs

theorem fieldsMember_regular {members : List (Option String × Literal)}
    (same : l = .object members) {name : String} {m : Option (FieldMap Value)}
    (h : fieldsMember? name members = some m) : FieldsRegular (m.getD []) := by
  subst same
  rw [fieldsMember?_eq] at h
  obtain rfl | ⟨part, hpart, m, hm, rfl⟩ := of_member h
  · exact ⟨List.Pairwise.nil, nofun⟩
  · exact (inner part hpart).fields m hm

theorem arrayContent_regular {vs : List Value} (h : arrayContent? l = some vs) :
    ∀ v ∈ vs, v.Regular := by
  unfold arrayContent? at h
  split at h
  · obtain ⟨vs, hvs, rfl⟩ := Option.map_eq_some_iff.1 h
    exact itemsMember_regular inner rfl hvs
  · cases h
    exact nofun
  · next values => exact (inner values List.mem_cons_self).items vs h
  · cases h

theorem mapContent_regular {m : FieldMap Value} (h : mapContent? l = some m) :
    FieldsRegular m := by
  unfold mapContent? at h
  split at h
  · obtain ⟨m, hm, rfl⟩ := Option.map_eq_some_iff.1 h
    exact fieldsMember_regular inner rfl hm
  · cases h
    exact ⟨List.Pairwise.nil, nofun⟩
  · next fields => exact (inner fields List.mem_cons_self).fields m h
  · cases h

theorem parts_regular {name : String} {arguments : List Value} {options : FieldMap Value}
    (h : parts? l = some (name, arguments, options)) :
    (∀ v ∈ arguments, v.Regular) ∧ FieldsRegular options := by
  unfold parts? at h
  split at h
  · simp only [Option.bind_eq_bind, Option.bind_eq_some_iff, Option.pure_def] at h
    obtain ⟨_, -, _, -, _, -, vs, hvs, m, hm, h⟩ := h
    cases h
    exact ⟨itemsMember_regular inner rfl hvs, fieldsMember_regular inner rfl hm⟩
  · simp only [Option.bind_eq_bind, Option.bind_eq_some_iff, Option.pure_def] at h
    obtain ⟨_, -, h⟩ := h
    cases h
    exact ⟨nofun, List.Pairwise.nil, nofun⟩
  · next nameText values =>
    simp only [Option.bind_eq_bind, Option.bind_eq_some_iff, Option.pure_def] at h
    obtain ⟨_, -, vs, hvs, h⟩ := h
    cases h
    exact ⟨(inner values (by simp [Literal.parts])).items _ hvs, List.Pairwise.nil, nofun⟩
  · next nameText values fields =>
    simp only [Option.bind_eq_bind, Option.bind_eq_some_iff, Option.pure_def] at h
    obtain ⟨_, -, vs, hvs, m, hm, h⟩ := h
    cases h
    exact ⟨(inner values (by simp [Literal.parts])).items _ hvs,
      (inner fields (by simp [Literal.parts])).fields _ hm⟩
  · cases h

theorem pipeline_regular {ss : List Stage} (h : pipeline? l = some ss) : ∀ s ∈ ss, s.Regular := by
  unfold pipeline? at h
  split at h
  · obtain ⟨found, hfound, h⟩ := Option.bind_eq_some_iff.1 h
    rw [stagesMember?_eq] at hfound
    obtain rfl | ⟨part, hpart, ss, hss, rfl⟩ := of_member hfound
    · cases h
    · cases h
      exact (inner part hpart).stages ss hss
  · next stages => exact (inner stages List.mem_cons_self).stages ss h
  · cases h

end

/-- **Whatever is read** from a literal whose numbers fit has sorted maps and finite doubles. -/
theorem readsRegular {l : Literal} (fit : l.NumbersFit) : ReadsRegular l := by
  induction l using Literal.inductParts with
  | step l ih =>
    have inner : ∀ part ∈ l.parts, ReadsRegular part :=
      fun part hpart => ih part hpart (fit.part hpart)
    exact {
      value := fun _ => value_regular inner fit
      items := fun _ => items_regular inner
      fields := fun _ => fields_regular inner
      stages := fun _ => stages_regular inner
      arrayContent := fun _ => arrayContent_regular inner
      mapContent := fun _ => mapContent_regular inner
      parts := fun _ _ _ => parts_regular inner
      pipeline := fun _ => pipeline_regular inner }

end DocumentPipeline.Wire
