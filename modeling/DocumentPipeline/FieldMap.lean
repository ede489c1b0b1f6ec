/-!
Maps sorted by key. Keys are ordered by their characters' code points, which is also the order of
their UTF-8 bytes. `insert` keeps the order and holds each key once.
-/
namespace DocumentPipeline

/-- Entries in strictly increasing order of their keys. The order is kept by every operation and is
not part of the type, so that values may nest maps of values. -/
abbrev FieldMap (α : Type) := List (String × α)

namespace FieldMap
variable {α : Type}

def empty : FieldMap α := []

def keys (m : FieldMap α) : List String := m.map (·.1)

/-- Keys strictly increase from entry to entry. -/
def Sorted (m : FieldMap α) : Prop := m.Pairwise fun a b => a.1 < b.1

def get? (key : String) : FieldMap α → Option α
  | [] => none
  | (k, v) :: rest => if k = key then some v else get? key rest

/-- Puts a value under a key, in place of the one that stood there. -/
def insert (key : String) (value : α) : FieldMap α → FieldMap α
  | [] => [(key, value)]
  | (k, v) :: rest =>
    if key < k then (key, value) :: (k, v) :: rest
    else if key = k then (key, value) :: rest
    else (k, v) :: insert key value rest

/-- The map of a list of entries; of two entries with one key the later counts. -/
def ofList (entries : List (String × α)) : FieldMap α :=
  entries.foldl (fun m (k, v) => m.insert k v) empty

end FieldMap
end DocumentPipeline
