import DocumentPipeline.Text.Quoted

/-!
Maps in the order of first insertion. A key that is inserted again keeps its place and takes the
new value. `position?` is the index from keys to places; look-up and insertion go through it.
-/
namespace DocumentPipeline

/-- Entries in the order in which their keys were first inserted, each key once. -/
abbrev OrderedMap (α : Type) := List (String × α)

namespace OrderedMap
variable {α : Type}

def empty : OrderedMap α := []

def keys (m : OrderedMap α) : List String := m.map (·.1)

def values (m : OrderedMap α) : List α := m.map (·.2)

/-- The place of a key among the entries. -/
def position? (key : String) (m : OrderedMap α) : Option Nat :=
  m.findIdx? (·.1 == key)

def get? (key : String) (m : OrderedMap α) : Option α :=
  (m.position? key).bind fun i => m[i]?.map (·.2)

def contains (key : String) (m : OrderedMap α) : Bool :=
  (m.position? key).isSome

/-- Replaces the value of a key where it stands, or adds the key at the end. -/
def insert (key : String) (value : α) (m : OrderedMap α) : OrderedMap α :=
  match m.position? key with
  | some i => m.set i (key, value)
  | none => m ++ [(key, value)]

/-- The map that inserting the entries one after the other gives. -/
def ofList (entries : List (String × α)) : OrderedMap α :=
  entries.foldl (fun m (k, v) => m.insert k v) empty

/-- The entries as a text for a reader. -/
def describe (value : α → String) (m : OrderedMap α) : String :=
  "\x7b" ++ ", ".intercalate (m.map fun (key, a) => Text.quote key ++ ": " ++ value a) ++ "\x7d"

end OrderedMap
end DocumentPipeline
