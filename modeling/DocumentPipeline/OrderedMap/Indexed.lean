import DocumentPipeline.FieldMap
import DocumentPipeline.OrderedMap

/-!
Ordered maps with an index from keys to places, so that a key is found without a walk through the
entries. The index follows from the entries and takes no part in equality.
-/
namespace DocumentPipeline.OrderedMap

/-- Entries in the order in which their keys were first inserted, and the place of every key. -/
structure Indexed (α : Type) where
  entries : List (String × α)
  index : FieldMap Nat

namespace Indexed
variable {α : Type}

def empty : Indexed α := ⟨[], .empty⟩

/-- Replaces the value of a key where it stands, or adds the key at the end. The value that stood
there comes with the new map. -/
def insert (key : String) (value : α) (m : Indexed α) : Option α × Indexed α :=
  match m.index.get? key with
  | some i =>
    (m.entries[i]?.map (·.2),
      { m with entries := m.entries.modify i fun entry => (entry.1, value) })
  | none => (none, ⟨m.entries ++ [(key, value)], m.index.insert key m.entries.length⟩)

def get? (key : String) (m : Indexed α) : Option α :=
  (m.index.get? key).bind fun i => m.entries[i]?.map (·.2)

def contains (key : String) (m : Indexed α) : Bool := (m.index.get? key).isSome

def keys (m : Indexed α) : List String := m.entries.map (·.1)

def values (m : Indexed α) : List α := m.entries.map (·.2)

def toList (m : Indexed α) : OrderedMap α := m.entries

def length (m : Indexed α) : Nat := m.entries.length

def isEmpty (m : Indexed α) : Bool := m.entries.isEmpty

/-- Inserts entries one after the other. -/
def insertAll (entries : List (String × α)) (m : Indexed α) : Indexed α :=
  entries.foldl (fun m (key, value) => (m.insert key value).2) m

def ofList (entries : List (String × α)) : Indexed α := insertAll entries empty

instance [BEq α] : BEq (Indexed α) where
  beq m m' := m.entries == m'.entries

end Indexed
end DocumentPipeline.OrderedMap
