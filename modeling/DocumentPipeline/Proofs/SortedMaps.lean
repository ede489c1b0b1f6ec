import DocumentPipeline.FieldMap
import Mathlib.Data.String.Basic

/-!
# Maps sorted by key

* `insertAll`: putting entries into a map one after the other, which is how `ofList` builds one;
* `mem_insertAll`, `mem_of_get?`: a map holds nothing that was not put into it;
* `get?_insert`, `insert_insert`, `insert_comm`: what an insertion does to the value of a key and to
  other insertions;
* `sorted_ofList`: what is built this way is sorted;
* `ofList_of_sorted`: entries that are sorted already are the map that they build;
* `get?_map`, `sorted_map`: maps with another value for every value.
-/

namespace DocumentPipeline.FieldMap
variable {α : Type}

/-- Puts entries into a map one after the other. -/
def insertAll (entries : List (String × α)) (before : FieldMap α) : FieldMap α :=
  entries.foldl (fun m entry => m.insert entry.1 entry.2) before

theorem ofList_eq_insertAll (entries : List (String × α)) : ofList entries = insertAll entries [] :=
  rfl

theorem insertAll_append (first second : List (String × α)) (before : FieldMap α) :
    insertAll (first ++ second) before = insertAll second (insertAll first before) :=
  List.foldl_append

theorem insertAll_cons (key : String) (value : α) (rest : List (String × α)) (before : FieldMap α) :
    insertAll ((key, value) :: rest) before = insertAll rest (before.insert key value) :=
  rfl

theorem insertAll_nil (before : FieldMap α) : insertAll [] before = before := rfl

theorem get?_nil (key : String) : get? key ([] : FieldMap α) = none := rfl

theorem mem_of_get? {key : String} {value : α} {m : FieldMap α} (h : m.get? key = some value) :
    (key, value) ∈ m := by
  induction m with
  | nil => cases h
  | cons entry rest ih =>
    obtain ⟨other, old⟩ := entry
    rw [get?] at h
    by_cases same : other = key
    · rw [if_pos same] at h
      cases h
      rw [same]
      exact List.mem_cons_self
    · rw [if_neg same] at h
      exact List.mem_cons_of_mem _ (ih h)

theorem get?_eq_none {key : String} {m : FieldMap α} (absent : ∀ entry ∈ m, entry.1 ≠ key) :
    m.get? key = none := by
  induction m with
  | nil => rfl
  | cons entry rest ih =>
    obtain ⟨hentry, hrest⟩ := List.forall_mem_cons.1 absent
    rw [get?, if_neg hentry, ih hrest]

/-- Inserting changes what stands under one key. -/
theorem get?_insert (m : FieldMap α) (key other : String) (value : α) :
    (m.insert key value).get? other = if key = other then some value else m.get? other := by
  induction m with
  | nil => rfl
  | cons entry rest ih =>
    obtain ⟨k, v⟩ := entry
    rw [insert]
    split
    · rfl
    · split
      · next same =>
        subst same
        simp only [get?]
        split <;> rfl
      · next differs =>
        simp only [get?, ih]
        split
        · next found => rw [if_neg (found ▸ differs)]
        · rfl

/-- Of two values inserted under one key the later counts. -/
theorem insert_insert (m : FieldMap α) (key : String) (old new : α) :
    (m.insert key old).insert key new = m.insert key new := by
  induction m with
  | nil => simp only [insert, lt_irrefl, if_false, if_true]
  | cons first rest ih =>
    obtain ⟨k, v⟩ := first
    by_cases less : key < k
    · simp only [insert, if_pos less, lt_irrefl, if_false, if_true]
    · by_cases same : key = k
      · simp only [insert, if_neg less, if_pos same, lt_irrefl, if_false, if_true]
      · simp only [insert, if_neg less, if_neg same, ih]

/-- Under different keys it does not matter which value is inserted first. -/
theorem insert_comm (m : FieldMap α) {key other : String} (differs : key ≠ other) (value new : α) :
    (m.insert key value).insert other new = (m.insert other new).insert key value := by
  -- Each key goes before the first entry that it is not greater than, whatever comes after.
  induction m with
  | nil => grind [insert]
  | cons first rest ih => grind [insert]

theorem mem_insert {key : String} {value : α} {m : FieldMap α} {entry : String × α}
    (h : entry ∈ m.insert key value) : entry = (key, value) ∨ entry ∈ m := by
  induction m with
  | nil => exact .inl (List.mem_singleton.1 h)
  | cons first rest ih =>
    obtain ⟨other, old⟩ := first
    rw [insert] at h
    split at h
    · exact List.mem_cons.1 h
    · split at h
      · exact (List.mem_cons.1 h).imp_right (List.mem_cons_of_mem _)
      · obtain rfl | h := List.mem_cons.1 h
        · exact .inr List.mem_cons_self
        · exact (ih h).imp_right (List.mem_cons_of_mem _)

theorem mem_insertAll {entries : List (String × α)} {before : FieldMap α} {entry : String × α}
    (h : entry ∈ insertAll entries before) : entry ∈ entries ∨ entry ∈ before := by
  induction entries generalizing before with
  | nil => exact .inr h
  | cons first rest ih =>
    change entry ∈ insertAll rest (before.insert first.1 first.2) at h
    obtain h | h := ih h
    · exact .inl (List.mem_cons_of_mem _ h)
    · obtain rfl | h := mem_insert h
      · exact .inl List.mem_cons_self
      · exact .inr h

/-- Inserting keeps a map sorted. -/
theorem Sorted.insert {m : FieldMap α} (h : m.Sorted) (key : String) (value : α) :
    (m.insert key value).Sorted := by
  induction m with
  | nil => exact List.pairwise_singleton _ _
  | cons first rest ih =>
    obtain ⟨other, old⟩ := first
    obtain ⟨before, hrest⟩ := List.pairwise_cons.1 h
    rw [FieldMap.insert]
    split
    · next less =>
      refine List.pairwise_cons.2 ⟨?_, h⟩
      intro entry hentry
      obtain rfl | hentry := List.mem_cons.1 hentry
      · exact less
      · exact lt_trans less (before entry hentry)
    · next notLess =>
      split
      · next same => exact List.pairwise_cons.2 ⟨same ▸ before, hrest⟩
      · next differs =>
        have greater : other < key := lt_of_le_of_ne (not_lt.1 notLess) (Ne.symm differs)
        refine List.pairwise_cons.2 ⟨?_, ih hrest⟩
        intro entry hentry
        obtain rfl | hentry := mem_insert hentry
        · exact greater
        · exact before entry hentry

theorem Sorted.insertAll {before : FieldMap α} (h : before.Sorted) (entries : List (String × α)) :
    (insertAll entries before).Sorted := by
  induction entries generalizing before with
  | nil => exact h
  | cons first rest ih => exact ih (h.insert first.1 first.2)

theorem sorted_ofList (entries : List (String × α)) : (ofList entries).Sorted :=
  Sorted.insertAll List.Pairwise.nil entries

/-- A key after all others goes to the end. -/
theorem insert_eq_append {m : FieldMap α} {key : String} (value : α)
    (last : ∀ entry ∈ m, entry.1 < key) : m.insert key value = m ++ [(key, value)] := by
  induction m with
  | nil => rfl
  | cons first rest ih =>
    obtain ⟨other, old⟩ := first
    obtain ⟨greater, hrest⟩ := List.forall_mem_cons.1 last
    rw [insert, if_neg (lt_asymm greater), if_neg (ne_of_gt greater), ih hrest]
    rfl

/-- **Entries that are sorted already** are the map that they build. -/
theorem ofList_of_sorted {m : FieldMap α} (h : m.Sorted) : ofList m = m := by
  have go (done rest : FieldMap α) (h : Sorted (done ++ rest)) :
      FieldMap.insertAll rest done = done ++ rest := by
    induction rest generalizing done with
    | nil => exact (List.append_nil done).symm
    | cons first rest ih =>
      have last : ∀ entry ∈ done, entry.1 < first.1 := fun entry hentry =>
        (List.pairwise_append.1 h).2.2 entry hentry first List.mem_cons_self
      have := ih (done ++ [first]) (by simpa using h)
      rw [List.append_assoc] at this
      rw [← List.singleton_append, ← this, FieldMap.insertAll, FieldMap.insertAll,
        List.singleton_append, List.foldl_cons, insert_eq_append _ last]
  exact go [] m h

section
variable {β : Type}

theorem get?_map (f : α → β) (m : FieldMap α) (key : String) :
    get? key (m.map fun entry => (entry.1, f entry.2)) = (get? key m).map f := by
  induction m with
  | nil => rfl
  | cons entry rest ih =>
    obtain ⟨other, old⟩ := entry
    rw [List.map_cons, get?, get?, ih]
    split <;> rfl

theorem sorted_map {f : α → β} {m : FieldMap α} :
    Sorted (m.map fun entry => (entry.1, f entry.2)) ↔ m.Sorted :=
  List.pairwise_map

end

end DocumentPipeline.FieldMap
