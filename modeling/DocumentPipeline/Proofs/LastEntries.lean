import DocumentPipeline.Proofs.IndexedMaps
import Mathlib.Data.List.Sort

/-!
# The entries that count

Of several entries with one key the last counts, whether they are collected into a map that is
sorted or into one that keeps the order of first insertion.

* `OrderedMap.mem_ofList_iff`, `OrderedMap.nodup_keys_ofList`: what is in a map of entries;
* `OrderedMap.ofList_of_nodup`: entries with different keys are the map that they build;
* `OrderedMap.ofList_map`: maps of changed values;
* `OrderedMap.ofList_of_keys`: a map whose values go by their keys has each key once;
* `FieldMap.get?_ofList`: the value of a key in a sorted map of entries;
* `FieldMap.Sorted.ext`: sorted maps are equal when the same values are found in them;
* `FieldMap.ofList_orderedOfList`: both kinds of maps remember the same;
* `lastInserted?_perm`: which entries count does not depend on the order of different keys.
-/

namespace DocumentPipeline

open OrderedMap.Indexed (lastInserted?)

namespace OrderedMap
variable {α : Type} {key : String} {value : α}

/-- A map of entries has each key with the value that it was given last. -/
theorem mem_ofList_iff {history : List (String × α)} :
    (key, value) ∈ ofList history ↔ lastInserted? history key = some value := by
  rw [← Indexed.toList_ofList, ← Indexed.get?_ofList,
    (Indexed.inStep_ofList history).get?_eq_some_iff, Indexed.toList]

theorem mem_of_mem_ofList {history : List (String × α)} {entry : String × α}
    (there : entry ∈ ofList history) : entry ∈ history := by
  obtain ⟨last, found, value⟩ := Option.map_eq_some_iff.1 (mem_ofList_iff.1 there)
  obtain ⟨member, key⟩ := List.mem_filter.1 (List.mem_of_getLast? found)
  obtain rfl : last = entry := Prod.ext (beq_iff_eq.1 key) value
  exact member

theorem map_fst_ofList (history : List (String × α)) :
    (ofList history).map (·.1) = (Indexed.ofList history).keys := by
  rw [← Indexed.toList_ofList, Indexed.toList, Indexed.keys]

/-- **Values that go by their keys** stand in the map once for each key. -/
theorem ofList_of_keys (value : String → α) (keys : List String) :
    ofList (keys.map fun key => (key, value key)) =
      keys.eraseDups.map fun key => (key, value key) := by
  have own : ∀ entry ∈ ofList (keys.map fun key => (key, value key)),
      entry = (entry.1, value entry.1) := by
    intro entry there
    obtain ⟨key, -, rfl⟩ := List.mem_map.1 (mem_of_mem_ofList there)
    rfl
  have once : (ofList (keys.map fun key => (key, value key))).map (·.1) = keys.eraseDups := by
    rw [map_fst_ofList, Indexed.keys_ofList, Indexed.firstInserted, List.map_map]
    exact congrArg List.eraseDups (List.map_id keys)
  rw [← once, List.map_map]
  exact (List.map_id _).symm.trans (List.map_congr_left own)

theorem nodup_keys_ofList (history : List (String × α)) :
    ((ofList history).map (·.1)).Nodup := by
  have inStep := Indexed.inStep_ofList history
  rw [map_fst_ofList, List.nodup_iff_getElem?_ne_getElem?]
  intro i j earlier within same
  -- Both places would be the one that the index has.
  have there : (Indexed.ofList history).keys[j]? = some (Indexed.ofList history).keys[j] :=
    List.getElem?_eq_getElem within
  have placed := (inStep _ j).2 there
  rw [(inStep _ i).2 (same.trans there)] at placed
  exact earlier.ne (Option.some.inj placed)

theorem ofList_concat (before : List (String × α)) (entry : String × α) :
    ofList (before ++ [entry]) = (ofList before).insert entry.1 entry.2 :=
  List.foldl_append

/-- A key that is not there yet goes to the end. -/
theorem insert_of_notMem {m : OrderedMap α} (absent : key ∉ m.map (·.1)) :
    m.insert key value = m ++ [(key, value)] := by
  have nowhere : m.position? key = none := by
    rw [position?, List.findIdx?_eq_none_iff]
    intro entry member
    exact beq_eq_false_iff_ne.2 fun same => absent (List.mem_map.2 ⟨entry, member, same⟩)
  rw [insert, nowhere]

/-- **Entries with different keys** are the map that they build. -/
theorem ofList_of_nodup {entries : List (String × α)} (nodup : (entries.map (·.1)).Nodup) :
    ofList entries = entries := by
  induction entries using List.reverseRecOn with
  | nil => rfl
  | append_singleton before entry ih =>
    rw [List.map_append, List.nodup_append] at nodup
    obtain ⟨nodup, -, apart⟩ := nodup
    have absent : entry.1 ∉ before.map (·.1) := fun member =>
      apart _ member _ (List.mem_singleton.2 rfl) rfl
    rw [ofList_concat, ih nodup, insert_of_notMem absent]

theorem insert_map {β : Type} (f : α → β) (m : OrderedMap α) (key : String) (value : α) :
    insert key (f value) (m.map fun entry => (entry.1, f entry.2)) =
      (m.insert key value).map fun entry => (entry.1, f entry.2) := by
  have place : position? key (m.map fun entry => (entry.1, f entry.2)) = m.position? key := by
    rw [position?, List.findIdx?_map]
    rfl
  rw [insert, insert, place]
  cases m.position? key with
  | none => rw [List.map_append, List.map_singleton]
  | some i => rw [List.map_set]

/-- The values may be changed before or after a map is built. -/
theorem ofList_map {β : Type} (f : α → β) (entries : List (String × α)) :
    ofList (entries.map fun entry => (entry.1, f entry.2)) =
      (ofList entries).map fun entry => (entry.1, f entry.2) := by
  induction entries using List.reverseRecOn with
  | nil => rfl
  | append_singleton before entry ih =>
    rw [List.map_append, List.map_singleton, ofList_concat, ofList_concat, ih]
    exact insert_map f (ofList before) entry.1 entry.2

end OrderedMap

section
variable {α : Type} {key : String} {value : α} {history other : List (String × α)}

theorem lastInserted?_eq_some_iff_mem (nodup : (history.map (·.1)).Nodup) :
    lastInserted? history key = some value ↔ (key, value) ∈ history := by
  rw [← OrderedMap.mem_ofList_iff, OrderedMap.ofList_of_nodup nodup]

/-- **Entries with different keys** count in any order. -/
theorem lastInserted?_perm (perm : history.Perm other) (nodup : (history.map (·.1)).Nodup) :
    lastInserted? history = lastInserted? other := by
  have nodup' : (other.map (·.1)).Nodup := (perm.map _).nodup_iff.1 nodup
  funext key
  apply Option.ext
  intro value
  rw [lastInserted?_eq_some_iff_mem nodup, lastInserted?_eq_some_iff_mem nodup', perm.mem_iff]

end

namespace FieldMap
variable {α : Type} {key : String} {value : α} {m m' : FieldMap α}

/-- **The value of a key** in a map of entries is the one that it was given last. -/
theorem get?_ofList (entries : List (String × α)) (key : String) :
    get? key (ofList entries) = lastInserted? entries key := by
  induction entries using List.reverseRecOn with
  | nil => rfl
  | append_singleton before entry ih =>
    obtain ⟨other, value⟩ := entry
    rw [ofList_eq_insertAll, insertAll_append, insertAll_cons, insertAll_nil, get?_insert,
      OrderedMap.Indexed.lastInserted?_concat, ← ofList_eq_insertAll, ih]

theorem Sorted.get?_eq_some_iff (h : m.Sorted) : m.get? key = some value ↔ (key, value) ∈ m := by
  refine ⟨mem_of_get?, fun member => ?_⟩
  have nodup : (m.map (·.1)).Nodup := List.pairwise_map.2 (h.imp ne_of_lt)
  rw [← ofList_of_sorted h, get?_ofList]
  exact (lastInserted?_eq_some_iff_mem nodup).2 member

/-- **Sorted maps are equal** when the same value is found under every key. -/
theorem Sorted.ext (h : m.Sorted) (h' : m'.Sorted) (same : ∀ key, m.get? key = m'.get? key) :
    m = m' := by
  have nodup {m : FieldMap α} (h : m.Sorted) : m.Nodup :=
    List.Pairwise.imp (fun less same => (ne_of_lt less) (congrArg Prod.fst same)) h
  have perm : m.Perm m' := by
    rw [List.perm_ext_iff_of_nodup (nodup h) (nodup h')]
    rintro ⟨key, value⟩
    rw [← h.get?_eq_some_iff, ← h'.get?_eq_some_iff, same]
  refine List.Perm.eq_of_pairwise ?_ h h' perm
  intro a b _ _ less greater
  exact absurd (lt_trans less greater) (lt_irrefl _)

/-- **Entries are collected alike** by both kinds of maps. -/
theorem ofList_orderedOfList (entries : List (String × α)) :
    ofList (OrderedMap.ofList entries) = ofList entries := by
  refine (sorted_ofList _).ext (sorted_ofList _) fun key => Option.ext fun value => ?_
  rw [get?_ofList, get?_ofList, ← OrderedMap.mem_ofList_iff,
    OrderedMap.ofList_of_nodup (OrderedMap.nodup_keys_ofList entries), OrderedMap.mem_ofList_iff]

end FieldMap
end DocumentPipeline
