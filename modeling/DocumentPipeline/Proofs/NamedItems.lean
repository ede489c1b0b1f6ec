import DocumentPipeline.Proofs.Expressions
import DocumentPipeline.Proofs.LastEntries
import DocumentPipeline.Proofs.Pruning

/-!
# Named items as a map

A list of named items is collected by name before it is encoded, so that of several items with one
name the last alone is left. What is sent is a map of those that are not dropped.

* `encodeItems`: what is sent for named items;
* `encodeNamed_eq`, `encodeAccumulators_eq`: expressions and accumulators are sent in this way;
* `HoldsLast`: a map that holds the last item of each name, and nothing else;
* `encodeItems_ofList_eq_ok_iff`: this map is what is sent;
* `encodeItems_ofList_eq_error`: it cannot be sent when the last item of some name has no wire form;
* `HoldsLast.perm_iff`: items with different names are sent alike in any order.
-/

namespace DocumentPipeline.Encoding

open OrderedMap.Indexed (lastInserted?)
open Wire (Value)

section
variable {α : Type} (dropped : α → Bool) (encode : α → Encoded Value)

/-- What is sent for named items: those that are kept, each encoded under its name. -/
def encodeItems (items : List (String × α)) : Encoded (FieldMap Value) := do
  return FieldMap.ofList (← (kept dropped items).mapM (encodeUnder encode))

/-- A map that holds each name once: those whose last item is not dropped, with the encoding of that
item. -/
structure HoldsLast (items : List (String × α)) (fields : FieldMap Value) : Prop where
  sorted : fields.Sorted
  mem_keys_iff (name : String) :
    name ∈ fields.keys ↔ ∃ a, lastInserted? items name = some a ∧ dropped a = false
  value {name : String} {a : α} : lastInserted? items name = some a → dropped a = false →
    ∃ v, encode a = .ok v ∧ fields.get? name = some v

/-- The last item of some name has no wire form. -/
def SomeLastFails (items : List (String × α)) : Prop :=
  ∃ name a fault, lastInserted? items name = some a ∧ encode a = .error fault

variable {dropped encode} {items others : List (String × α)} {fields : FieldMap Value}

theorem encodeUnder_eq_ok {entry : String × α} {name : String} {v : Value} :
    encodeUnder encode entry = .ok (name, v) ↔ entry.1 = name ∧ encode entry.2 = .ok v := by
  rw [encodeUnder, bind_eq_ok]
  simp only [pure_eq_ok, Prod.mk.injEq]
  constructor
  · rintro ⟨w, sent, same, rfl⟩
    exact ⟨same, sent⟩
  · rintro ⟨same, sent⟩
    exact ⟨v, sent, same, rfl⟩

/-- Items are sent under their own names. -/
theorem map_fst_of_mapM {sent : List (String × Value)}
    (h : items.mapM (encodeUnder encode) = .ok sent) : sent.map (·.1) = items.map (·.1) := by
  have each := mapM_eq_ok.1 h
  clear h
  induction each with
  | nil => rfl
  | cons step _ ih => rw [List.map_cons, List.map_cons, ih, (encodeUnder_eq_ok.1 step).1]

theorem mem_kept {name : String} {a : α} :
    (name, a) ∈ kept dropped items ↔ (name, a) ∈ items ∧ dropped a = false := by
  rw [kept, List.mem_filter, Bool.not_eq_true']

theorem sorted_encodeItems (sent : encodeItems dropped encode items = .ok fields) :
    fields.Sorted := by
  obtain ⟨entries, -, collected⟩ := bind_eq_ok.1 sent
  obtain rfl := pure_eq_ok.1 collected
  exact FieldMap.sorted_ofList entries

/-- What is found in the map that is sent. -/
theorem get?_encodeItems (sent : encodeItems dropped encode (OrderedMap.ofList items) = .ok fields)
    {name : String} {v : Value} :
    fields.get? name = some v ↔
      ∃ a, lastInserted? items name = some a ∧ dropped a = false ∧ encode a = .ok v := by
  obtain ⟨entries, encoded, collected⟩ := bind_eq_ok.1 sent
  obtain rfl := pure_eq_ok.1 collected
  have nodup : (entries.map (·.1)).Nodup := by
    rw [map_fst_of_mapM encoded]
    exact (OrderedMap.nodup_keys_ofList items).sublist (List.filter_sublist.map _)
  rw [FieldMap.get?_ofList, lastInserted?_eq_some_iff_mem nodup, mem_mapM encoded]
  constructor
  · rintro ⟨⟨name', a⟩, member, step⟩
    obtain ⟨rfl, value⟩ := encodeUnder_eq_ok.1 step
    obtain ⟨member, notDropped⟩ := mem_kept.1 member
    exact ⟨a, OrderedMap.mem_ofList_iff.1 member, notDropped, value⟩
  · rintro ⟨a, last, notDropped, value⟩
    exact ⟨(name, a), mem_kept.2 ⟨OrderedMap.mem_ofList_iff.2 last, notDropped⟩,
      encodeUnder_eq_ok.2 ⟨rfl, value⟩⟩

theorem encodeItems_succeeds :
    (∃ fields, encodeItems dropped encode (OrderedMap.ofList items) = .ok fields) ↔
      ∀ name a, lastInserted? items name = some a → dropped a = true ∨ ∃ v, encode a = .ok v := by
  have each := @kept_succeeds α dropped encode (OrderedMap.ofList items) []
  simp only [Prod.forall, OrderedMap.mem_ofList_iff] at each
  exact each

theorem HoldsLast.get?_eq_some_iff (holds : HoldsLast dropped encode items fields) {name : String}
    {v : Value} :
    fields.get? name = some v ↔
      ∃ a, lastInserted? items name = some a ∧ dropped a = false ∧ encode a = .ok v := by
  constructor
  · intro found
    have member : name ∈ fields.keys := List.mem_map.2 ⟨_, FieldMap.mem_of_get? found, rfl⟩
    obtain ⟨a, last, notDropped⟩ := (holds.mem_keys_iff name).1 member
    obtain ⟨w, value, found'⟩ := holds.value last notDropped
    cases found.symm.trans found'
    exact ⟨a, last, notDropped, value⟩
  · rintro ⟨a, last, notDropped, value⟩
    obtain ⟨w, value', found⟩ := holds.value last notDropped
    cases value.symm.trans value'
    exact found

theorem holdsLast_of_encodeItems
    (sent : encodeItems dropped encode (OrderedMap.ofList items) = .ok fields) :
    HoldsLast dropped encode items fields := by
  have sorted := sorted_encodeItems sent
  have found {name : String} {a : α} (last : lastInserted? items name = some a)
      (notDropped : dropped a = false) : ∃ v, encode a = .ok v ∧ fields.get? name = some v := by
    obtain dropped' | ⟨v, value⟩ := encodeItems_succeeds.1 ⟨fields, sent⟩ name a last
    · exact absurd (notDropped.symm.trans dropped') Bool.false_ne_true
    · exact ⟨v, value, (get?_encodeItems sent).2 ⟨a, last, notDropped, value⟩⟩
  refine ⟨sorted, fun name => ⟨fun member => ?_, ?_⟩, found⟩
  · obtain ⟨⟨name', v⟩, there, rfl⟩ := List.mem_map.1 member
    obtain ⟨a, last, notDropped, -⟩ := (get?_encodeItems sent).1 (sorted.get?_eq_some_iff.2 there)
    exact ⟨a, last, notDropped⟩
  · rintro ⟨a, last, notDropped⟩
    obtain ⟨v, -, there⟩ := found last notDropped
    exact List.mem_map.2 ⟨_, FieldMap.mem_of_get? there, rfl⟩

/-- **What is sent for a list of named items** is the map of the last item of each name. -/
theorem encodeItems_ofList_eq_ok_iff :
    encodeItems dropped encode (OrderedMap.ofList items) = .ok fields ↔
      HoldsLast dropped encode items fields := by
  refine ⟨holdsLast_of_encodeItems, fun holds => ?_⟩
  have succeeds : ∃ sent, encodeItems dropped encode (OrderedMap.ofList items) = .ok sent := by
    refine encodeItems_succeeds.2 fun name a last => ?_
    cases keep : dropped a with
    | true => exact .inl rfl
    | false =>
      obtain ⟨v, value, -⟩ := holds.value last keep
      exact .inr ⟨v, value⟩
  obtain ⟨sent, encoded⟩ := succeeds
  -- Both maps are sorted and have the same values, so that they are one map.
  have same : sent = fields := by
    have holds' := holdsLast_of_encodeItems encoded
    refine holds'.sorted.ext holds.sorted fun name => Option.ext fun v => ?_
    rw [holds'.get?_eq_some_iff, holds.get?_eq_some_iff]
  rw [encoded, same]

/-- **Nothing is sent** when the last item of some name has no wire form. -/
theorem encodeItems_ofList_eq_error (sendable : ∀ a, dropped a = true → ∃ v, encode a = .ok v) :
    (∃ fault, encodeItems dropped encode (OrderedMap.ofList items) = .error fault) ↔
      SomeLastFails encode items := by
  have each : (∃ fields, encodeItems dropped encode (OrderedMap.ofList items) = .ok fields) ↔
      ∀ name a, lastInserted? items name = some a → ∃ v, encode a = .ok v := by
    rw [encodeItems_succeeds]
    exact forall₃_congr fun name a _ => or_iff_right_of_imp (sendable a)
  rw [fails_iff, each, SomeLastFails]
  simp only [exists_and_left, fails_iff, not_forall, exists_prop]

/-- **Items with different names** are sent alike in any order. -/
theorem HoldsLast.perm_iff (perm : items.Perm others) (nodup : (items.map (·.1)).Nodup) :
    HoldsLast dropped encode items fields ↔ HoldsLast dropped encode others fields := by
  have same := lastInserted?_perm perm nodup
  constructor
  · rintro ⟨sorted, mem_keys_iff, value⟩
    rw [same] at mem_keys_iff value
    exact ⟨sorted, mem_keys_iff, value⟩
  · rintro ⟨sorted, mem_keys_iff, value⟩
    rw [← same] at mem_keys_iff value
    exact ⟨sorted, mem_keys_iff, value⟩

end

section
variable (skipUndefined : Bool)

/-- Absent values that are skipped. -/
def skips : Expression → Bool
  | .constant .undefined => skipUndefined
  | _ => false

theorem skips_eq (e : Expression) : skips skipUndefined e = (skipUndefined && isUndefined e) := by
  cases e with
  | constant c => cases c <;> simp [skips, isUndefined, Constant.isUndefined]
  | _ => simp [skips, isUndefined]

theorem encodeNamed_eq (entries : ExpressionMap) :
    encodeNamed skipUndefined entries =
      Value.map <$> encodeItems (skips skipUndefined) (encodeExpression skipUndefined) entries := by
  rw [encodeNamed, encodeNamedFrom_eq, encodeItems, funext (skips_eq skipUndefined)]
  simp only [map_eq_pure_bind, bind_assoc, pure_bind]
  rfl

theorem encodeAccumulators_eq (accumulators : OrderedMap Aggregate) :
    encodeAccumulators skipUndefined accumulators =
      Value.map <$> encodeItems (fun _ => false) (encodeAggregate skipUndefined) accumulators := by
  rw [encodeAccumulators, encodeItems, kept_false]
  simp only [map_eq_pure_bind, bind_assoc, pure_bind]
  rfl

/-- An absent value that is skipped has a wire form of its own, elsewhere than in a map. -/
theorem sendable_of_skips (e : Expression) (skipped : skips skipUndefined e = true) :
    ∃ v, encodeExpression skipUndefined e = .ok v := by
  rw [skips_eq, Bool.and_eq_true] at skipped
  obtain ⟨rfl, undefined⟩ := skipped
  rw [isUndefined_iff.1 undefined]
  exact ⟨.null, rfl⟩

end
end DocumentPipeline.Encoding
