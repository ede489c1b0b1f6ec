import DocumentPipeline.OrderedMap.Indexed
import DocumentPipeline.Proofs.SortedMaps
import Mathlib.Data.List.Induction

/-!
# Ordered maps with an index

A map keeps two records in step, its entries and the places of their keys. Seen from outside it is
the dictionary of its insertions: each key once, in the order in which the keys were first inserted,
with the value that it was given last.

* `Indexed.InStep`: the index has the place of every key, and nothing else;
* `Indexed.InStep.insert`, `Indexed.inStep_ofList`: every insertion keeps the two in step;
* `Indexed.keys_insert`, `Indexed.InStep.get?_insert`, `Indexed.InStep.toList_insert`: what an
  insertion does to the keys, to the value of a key and to the entries;
* `Indexed.keys_ofList`, `Indexed.get?_ofList`: keys and values by the history;
* `Indexed.ofList_beq_iff`: which histories lead to equal maps;
* `Indexed.ofList_remembers`: what is seen of a map follows from its history alone.
-/

namespace DocumentPipeline.OrderedMap.Indexed
variable {α : Type} {m : Indexed α} {key : String} {value : α}

/-- The index has the place of every key among the entries, and nothing else. -/
def InStep (m : Indexed α) : Prop :=
  ∀ key i, m.index.get? key = some i ↔ m.keys[i]? = some key

theorem inStep_empty : (empty : Indexed α).InStep := by
  intro key i
  simp [empty, keys, FieldMap.empty, FieldMap.get?_nil]

theorem length_keys (m : Indexed α) : m.keys.length = m.entries.length := List.length_map _

/-! ## One insertion -/

theorem insert_of_present {i : Nat} (place : m.index.get? key = some i) :
    m.insert key value = (m.entries[i]?.map (·.2),
      { m with entries := m.entries.modify i fun entry => (entry.1, value) }) := by
  rw [insert, place]

theorem insert_of_absent (absent : m.index.get? key = none) :
    m.insert key value =
      (none, ⟨m.entries ++ [(key, value)], m.index.insert key m.entries.length⟩) := by
  rw [insert, absent]

/-- An insertion gives back the value that it replaces. -/
theorem insert_replaced : (m.insert key value).1 = m.get? key := by
  cases place : m.index.get? key with
  | none => rw [insert_of_absent place, get?, place, Option.bind_none]
  | some i => rw [insert_of_present place, get?, place, Option.bind_some]

/-- A new value at one place leaves all keys as they are. -/
theorem map_fst_modify (entries : List (String × α)) (i : Nat) (value : α) :
    (entries.modify i fun entry => (entry.1, value)).map (·.1) = entries.map (·.1) := by
  apply List.ext_getElem?
  intro j
  rw [List.getElem?_map, List.getElem?_modify, List.getElem?_map, Option.map_eq_map, Option.map_map]
  congr 1
  funext entry
  by_cases same : i = j <;> simp [same]

/-- A new key goes to the end, and a key that is there stays where it is. -/
theorem keys_insert :
    (m.insert key value).2.keys = if m.contains key then m.keys else m.keys ++ [key] := by
  cases place : m.index.get? key with
  | none => simp [insert_of_absent place, contains, place, keys]
  | some i => simp [insert_of_present place, contains, place, keys, map_fst_modify]

/-- What stands at a place of a list with one more item at its end. -/
theorem getElem?_concat_eq_some_iff {β : Type} {l : List β} {a b : β} {i : Nat} :
    (l ++ [a])[i]? = some b ↔ l[i]? = some b ∨ i = l.length ∧ a = b := by
  obtain within | rfl | beyond := Nat.lt_trichotomy i l.length
  · simp [List.getElem?_append_left within, within.ne]
  · simp
  · have nothing : (l ++ [a])[i]? = none := by
      rw [List.getElem?_eq_none_iff, List.length_append]
      exact beyond
    have nothing' : l[i]? = none := List.getElem?_eq_none beyond.le
    simp [nothing, nothing', beyond.ne']

namespace InStep

/-- A key has the place in the index where its entry stands. -/
theorem place_iff (h : m.InStep) {i : Nat} :
    m.index.get? key = some i ↔ ∃ value, m.entries[i]? = some (key, value) := by
  rw [h key i, keys, List.getElem?_map, Option.map_eq_some_iff]
  constructor
  · rintro ⟨⟨_, value⟩, there, rfl⟩
    exact ⟨value, there⟩
  · rintro ⟨value, there⟩
    exact ⟨_, there, rfl⟩

/-- No place in the index lies beyond the entries. -/
theorem inRange (h : m.InStep) {i : Nat} (place : m.index.get? key = some i) :
    i < m.entries.length := by
  obtain ⟨value, there⟩ := h.place_iff.1 place
  exact (List.getElem?_eq_some_iff.1 there).1

theorem contains_iff (h : m.InStep) : m.contains key = true ↔ key ∈ m.keys := by
  rw [contains, Option.isSome_iff_exists, List.mem_iff_getElem?]
  exact exists_congr fun i => h key i

/-- The value of a key is the one of its entry. -/
theorem get?_eq_some_iff (h : m.InStep) : m.get? key = some value ↔ (key, value) ∈ m.entries := by
  constructor
  · intro found
    obtain ⟨i, place, there⟩ := Option.bind_eq_some_iff.1 found
    obtain ⟨value', entry⟩ := h.place_iff.1 place
    rw [entry] at there
    cases there
    exact List.mem_of_getElem? entry
  · intro member
    obtain ⟨i, there⟩ := List.mem_iff_getElem?.1 member
    have place : m.index.get? key = some i := h.place_iff.2 ⟨value, there⟩
    rw [get?, place, Option.bind_some, there]
    rfl

/-- **An insertion keeps the index in step with the entries.** -/
theorem insert (h : m.InStep) (key : String) (value : α) : (m.insert key value).2.InStep := by
  intro other j
  cases place : m.index.get? key with
  | some i =>
    rw [keys_insert, contains, place, insert_of_present place]
    exact h other j
  | none =>
    have absent : m.keys[j]? ≠ some key := fun there => by
      rw [(h key j).2 there] at place
      cases place
    rw [keys_insert, contains, place, insert_of_absent place, FieldMap.get?_insert]
    by_cases same : key = other
    · subst same
      have here : (m.keys ++ [key])[j]? = some key ↔ j = m.entries.length := by
        simp [getElem?_concat_eq_some_iff, absent, m.length_keys]
      rw [if_pos rfl, Option.some_inj, eq_comm]
      exact here.symm
    · simp [getElem?_concat_eq_some_iff, same, h other j]

/-- An insertion changes the value of one key. -/
theorem get?_insert (h : m.InStep) (key other : String) (value : α) :
    (m.insert key value).2.get? other = if key = other then some value else m.get? other := by
  cases place : m.index.get? key with
  | some i =>
    obtain ⟨old, there⟩ := h.place_iff.1 place
    rw [insert_of_present place]
    by_cases same : key = other
    · subst same
      simp [get?, place, List.getElem?_modify, there]
    · rw [if_neg same, get?, get?]
      refine Option.bind_congr fun j place' => ?_
      -- Another key stands at another place.
      have apart : i ≠ j := by
        rintro rfl
        have here := ((h key i).1 place).symm.trans ((h other i).1 place')
        exact same (Option.some.inj here)
      simp [apart]
  | none =>
    rw [insert_of_absent place]
    by_cases same : key = other
    · subst same
      simp [get?, FieldMap.get?_insert]
    · rw [if_neg same, get?, get?, FieldMap.get?_insert, if_neg same]
      refine Option.bind_congr fun j place' => ?_
      rw [List.getElem?_append_left (h.inRange place')]

/-- The index has the place that a walk through the entries finds. -/
theorem position?_eq (h : m.InStep) (key : String) :
    position? key m.entries = m.index.get? key := by
  apply Option.ext
  intro i
  rw [position?, List.findIdx?_eq_some_iff_getElem, h key i]
  constructor
  · rintro ⟨within, found, -⟩
    simpa [keys, List.getElem?_eq_getElem within] using found
  · intro there
    have place := (h key i).2 there
    obtain ⟨value, entry⟩ := h.place_iff.1 place
    obtain ⟨within, same⟩ := List.getElem?_eq_some_iff.1 entry
    refine ⟨within, by simp [same], fun j earlier found => ?_⟩
    -- The key would have two places.
    have before : m.keys[j]? = some key := by
      simpa [keys, List.getElem?_eq_getElem (earlier.trans within)] using found
    have place' := (h key j).2 before
    rw [place] at place'
    exact earlier.ne (Option.some.inj place').symm

/-- **The entries after an insertion** are those of the map without an index. -/
theorem toList_insert (h : m.InStep) (key : String) (value : α) :
    (m.insert key value).2.toList = OrderedMap.insert key value m.toList := by
  rw [toList, toList, OrderedMap.insert, h.position?_eq]
  cases place : m.index.get? key with
  | none => rw [insert_of_absent place]
  | some i =>
    obtain ⟨old, there⟩ := h.place_iff.1 place
    rw [insert_of_present place, List.modify_eq_set_getElem?, there]
    rfl

/-- What is found through the index is what a walk through the entries finds. -/
theorem get?_toList (h : m.InStep) (key : String) : OrderedMap.get? key m.toList = m.get? key := by
  rw [OrderedMap.get?, toList, h.position?_eq, get?]

theorem contains_toList (h : m.InStep) (key : String) :
    OrderedMap.contains key m.toList = m.contains key := by
  rw [OrderedMap.contains, toList, h.position?_eq, contains]

end InStep

/-! ## A history of insertions -/

/-- The keys that were inserted, each once, in the order of their first insertion. -/
def firstInserted (history : List (String × α)) : List String := (history.map (·.1)).eraseDups

/-- The value that a key was given last. -/
def lastInserted? (history : List (String × α)) (key : String) : Option α :=
  (history.filter (·.1 == key)).getLast?.map (·.2)

theorem insertAll_append (first later : List (String × α)) (m : Indexed α) :
    insertAll (first ++ later) m = insertAll later (insertAll first m) :=
  List.foldl_append

theorem ofList_concat (history : List (String × α)) (key : String) (value : α) :
    ofList (history ++ [(key, value)]) = ((ofList history).insert key value).2 :=
  insertAll_append history [(key, value)] empty

theorem firstInserted_concat (history : List (String × α)) (key : String) (value : α) :
    firstInserted (history ++ [(key, value)]) =
      if key ∈ firstInserted history then firstInserted history
      else firstInserted history ++ [key] := by
  simp only [firstInserted, List.map_append, List.map_cons, List.map_nil, List.eraseDups_append,
    List.mem_eraseDups]
  by_cases seen : key ∈ history.map (·.1)
  · simp [List.removeAll, seen]
  · simp [List.removeAll, seen, List.eraseDups_cons]

theorem lastInserted?_concat (history : List (String × α)) (key other : String) (value : α) :
    lastInserted? (history ++ [(key, value)]) other =
      if key = other then some value else lastInserted? history other := by
  rw [lastInserted?, List.filter_append]
  by_cases same : key = other <;> simp [lastInserted?, same]

/-- **The index is in step** after any history. -/
theorem inStep_ofList (history : List (String × α)) : (ofList history).InStep := by
  induction history using List.reverseRecOn with
  | nil => exact inStep_empty
  | append_singleton history entry ih =>
    rw [ofList_concat]
    exact ih.insert entry.1 entry.2

/-- **The keys** are those that were inserted, in the order of their first insertion. -/
theorem keys_ofList (history : List (String × α)) :
    (ofList history).keys = firstInserted history := by
  induction history using List.reverseRecOn with
  | nil => rfl
  | append_singleton history entry ih =>
    rw [ofList_concat, keys_insert, firstInserted_concat, ← ih]
    exact if_congr (inStep_ofList history).contains_iff rfl rfl

/-- **The value of a key** is the one that it was given last. -/
theorem get?_ofList (history : List (String × α)) (key : String) :
    (ofList history).get? key = lastInserted? history key := by
  induction history using List.reverseRecOn with
  | nil => rfl
  | append_singleton history entry ih =>
    rw [ofList_concat, (inStep_ofList history).get?_insert, lastInserted?_concat, ih]

/-- The entries are those of the map without an index. -/
theorem toList_ofList (history : List (String × α)) :
    (ofList history).toList = OrderedMap.ofList history := by
  induction history using List.reverseRecOn with
  | nil => rfl
  | append_singleton history entry ih =>
    rw [ofList_concat, (inStep_ofList history).toList_insert, ih, OrderedMap.ofList,
      OrderedMap.ofList, List.foldl_append]
    rfl

/-- A key that was never inserted was given no value. -/
theorem lastInserted?_eq_none {history : List (String × α)} (never : key ∉ firstInserted history) :
    lastInserted? history key = none := by
  have apart : ∀ entry ∈ history, ¬(entry.1 == key) = true := by
    intro entry member same
    exact never (List.mem_eraseDups.2 (List.mem_map.2 ⟨entry, member, beq_iff_eq.1 same⟩))
  rw [lastInserted?, List.filter_eq_nil_iff.2 apart]
  rfl

/-- A map remembers a history of insertions: it is the dictionary of the keys in the order of their
first insertion, each with the value that it was given last. -/
structure Remembers (history : List (String × α)) (m : Indexed α) : Prop where
  keys_eq : m.keys = firstInserted history
  get?_eq (key : String) : m.get? key = lastInserted? history key
  contains_iff (key : String) : m.contains key = true ↔ key ∈ history.map (·.1)
  toList_eq : m.toList.map (fun entry => (entry.1, some entry.2)) =
    (firstInserted history).map fun key => (key, lastInserted? history key)
  values_eq : m.values.map some = (firstInserted history).map (lastInserted? history)
  length_eq : m.length = (firstInserted history).length
  isEmpty_iff : m.isEmpty = true ↔ history = []
  replaced (key : String) (value : α) : (m.insert key value).1 = lastInserted? history key
  /-- The index leads to the place of every key, and nowhere else. -/
  index_iff (key : String) (i : Nat) :
    m.index.get? key = some i ↔ ∃ value, m.toList[i]? = some (key, value)
  inRange (key : String) (i : Nat) : m.index.get? key = some i → i < m.length

/-- Each entry is found under its key. -/
theorem InStep.entries_found (h : m.InStep) :
    m.entries.map (fun entry => (entry.1, some entry.2)) =
      m.keys.map fun key => (key, m.get? key) := by
  rw [keys, List.map_map]
  refine List.map_congr_left fun entry member => ?_
  rw [Function.comp_apply, h.get?_eq_some_iff.2 member]

/-- The same keys have the same places in both indices. -/
theorem InStep.index_eq {m' : Indexed α} (h : m.InStep) (h' : m'.InStep) (same : m.keys = m'.keys)
    (key : String) : m.index.get? key = m'.index.get? key := by
  apply Option.ext
  intro i
  rw [h key i, h' key i, same]

theorem firstInserted_eq_nil {history : List (String × α)} :
    firstInserted history = [] ↔ history = [] := by
  cases history <;> simp [firstInserted, List.eraseDups_cons]

theorem remembers_ofList (history : List (String × α)) : Remembers history (ofList history) := by
  have inStep := inStep_ofList history
  have keys_eq := keys_ofList history
  have entries_eq := inStep.entries_found
  simp only [get?_ofList, keys_eq] at entries_eq
  refine ⟨keys_eq, get?_ofList history, fun key => ?_, entries_eq, ?_, ?_, ?_, fun key value => ?_,
    fun key i => inStep.place_iff, fun key i => inStep.inRange⟩
  · rw [inStep.contains_iff, keys_eq]
    exact List.mem_eraseDups
  · have seconds := congrArg (List.map (·.2)) entries_eq
    rw [List.map_map, List.map_map] at seconds
    rw [values, List.map_map]
    exact seconds
  · rw [← keys_eq, length_keys, length]
  · rw [← firstInserted_eq_nil, ← keys_eq, isEmpty, List.isEmpty_iff, keys, List.map_eq_nil_iff]
  · rw [insert_replaced, get?_ofList]

/-! ## Equality -/

section
variable [BEq α]

theorem beq_of_map_some (entries entries' : List (String × α)) :
    (entries == entries') = (entries.map (fun entry => (entry.1, some entry.2)) ==
      entries'.map fun entry => (entry.1, some entry.2)) := by
  induction entries generalizing entries' with
  | nil => cases entries' <;> rfl
  | cons entry rest ih =>
    cases entries' with
    | nil => rfl
    | cons entry' rest' =>
      rw [List.cons_beq_cons, List.map_cons, List.map_cons, List.cons_beq_cons, ih]
      rfl

theorem beq_map_iff {first second : List String} {f g : String → Option α} :
    (first.map (fun key => (key, f key)) == second.map fun key => (key, g key)) = true ↔
      first = second ∧ ∀ key ∈ first, (f key == g key) = true := by
  induction first generalizing second with
  | nil => cases second <;> simp
  | cons key rest ih =>
    cases second with
    | nil => simp
    | cons key' rest' =>
      rw [List.map_cons, List.map_cons, List.cons_beq_cons, Bool.and_eq_true, ih,
        List.forall_mem_cons]
      change (key == key' && f key == g key') = true ∧ _ ↔ _
      by_cases same : key = key'
      · subst same
        simp [and_left_comm]
      · simp [same]

/-- **Equal maps** have the same keys, first inserted in the same order, and equal values. -/
theorem ofList_beq_iff (history other : List (String × α)) :
    (ofList history == ofList other) = true ↔ firstInserted history = firstInserted other ∧
      ∀ key, (lastInserted? history key == lastInserted? other key) = true := by
  change ((ofList history).entries == (ofList other).entries) = true ↔ _
  have entries_eq := (remembers_ofList history).toList_eq
  have entries_eq' := (remembers_ofList other).toList_eq
  rw [toList] at entries_eq entries_eq'
  rw [beq_of_map_some, entries_eq, entries_eq', beq_map_iff]
  refine and_congr_right fun same => ⟨fun equal key => ?_, fun equal key _ => equal key⟩
  by_cases member : key ∈ firstInserted history
  · exact equal key member
  · rw [lastInserted?_eq_none member, lastInserted?_eq_none (same ▸ member)]
    rfl

end

/-- **A map is the dictionary of its history**, whether entries are collected or inserted one by one.
The map without an index has the same entries and answers alike. Two maps are equal if their entries
are, whatever their histories, and then no key has another place in one of them than in the other. -/
theorem ofList_remembers [BEq α] (history : List (String × α)) :
    Remembers history (ofList history) ∧
      (∀ later, insertAll later (ofList history) = ofList (history ++ later)) ∧
      ((ofList history).toList = OrderedMap.ofList history ∧ ∀ key,
        OrderedMap.get? key (OrderedMap.ofList history) = (ofList history).get? key ∧
        OrderedMap.contains key (OrderedMap.ofList history) = (ofList history).contains key) ∧
      ∀ other : List (String × α),
        (ofList history == ofList other) = ((ofList history).toList == (ofList other).toList) ∧
          ((ofList history == ofList other) = true ↔ firstInserted history = firstInserted other ∧
            ∀ key, (lastInserted? history key == lastInserted? other key) = true) ∧
          ((ofList history).keys = (ofList other).keys →
            ∀ key, (ofList history).index.get? key = (ofList other).index.get? key) := by
  have inStep := inStep_ofList history
  have walked := toList_ofList history
  refine ⟨remembers_ofList history, fun later => ?_, ⟨walked, fun key => ?_⟩, fun other => ?_⟩
  · exact (insertAll_append history later empty).symm
  · rw [← walked]
    exact ⟨inStep.get?_toList key, inStep.contains_toList key⟩
  · exact ⟨rfl, ofList_beq_iff history other, inStep.index_eq (inStep_ofList other)⟩

example : (ofList [("x", 1), ("y", 2), ("x", 9)]).toList = [("x", 9), ("y", 2)] := by decide

end DocumentPipeline.OrderedMap.Indexed
