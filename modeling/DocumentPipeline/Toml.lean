/-!
TOML documents: values, and the rules by which headers and dotted keys build tables. A key is set
once. A table is opened by a header once; dotted keys add to tables that dotted keys made, and
inline tables and arrays are closed. Floats and times are told from other values, but their values
are not kept.
-/
namespace DocumentPipeline

/-- How a table came about. -/
inductive Toml.Origin where
  /-- On the way to the table of a header. -/
  | implied
  | header
  | dotted
  | inline
  deriving DecidableEq

inductive Toml where
  | string (value : String)
  | integer (value : Int)
  | boolean (value : Bool)
  | float
  | time
  | array (items : List Toml)
  | table (origin : Toml.Origin) (entries : List (String × Toml))
  | tables (elements : List (List (String × Toml)))

namespace Toml

/-- The entries of a table in the order of the document. -/
abbrev Entries := List (String × Toml)

namespace Entries

def get? (key : String) : Entries → Option Toml
  | [] => none
  | (k, v) :: rest => if k = key then some v else get? key rest

/-- Replaces the value of a key, or adds it at the end. -/
def set (key : String) (value : Toml) : Entries → Entries
  | [] => [(key, value)]
  | (k, v) :: rest => if k = key then (k, value) :: rest else (k, v) :: set key value rest

/-- Adds a new key. -/
def add? (key : String) (value : Toml) (entries : Entries) : Option Entries :=
  if (entries.get? key).isSome then none else some (entries ++ [(key, value)])

/-- Changes the entries of the last element of an array of tables. -/
def changeLast? (change : Entries → Option Entries) (elements : List Entries) :
    Option (List Entries) := do
  let changed ← change (elements.getLastD [])
  return elements.dropLast ++ [changed]

/-- Sets a value at a dotted key. The tables on the way are made as needed; the last of them must be
one that dotted keys made, and none may have been opened by a header. -/
def setDotted? (value : Toml) : List String → Entries → Option Entries
  | [], _ => none
  | [key], entries => entries.add? key value
  | key :: rest, entries =>
    match entries.get? key with
    | none => do
      let inner ← setDotted? value rest []
      return entries.set key (.table .dotted inner)
    | some (.table .dotted inner) => do
      let inner ← setDotted? value rest inner
      return entries.set key (.table .dotted inner)
    | some (.table .implied inner) =>
      if rest.length = 1 then none
      else do
        let inner ← setDotted? value rest inner
        return entries.set key (.table .implied inner)
    | some (.tables elements) =>
      if rest.length = 1 then none
      else do
        let elements ← changeLast? (setDotted? value rest) elements
        return entries.set key (.tables elements)
    | some _ => none

/-- Changes the table at the path of a header, making the tables on the way. Of an array of tables
the last element counts. -/
def changeAt? (change : Entries → Option Entries) : List String → Entries → Option Entries
  | [], entries => change entries
  | key :: rest, entries =>
    match entries.get? key with
    | none => do
      let inner ← changeAt? change rest []
      return entries.set key (.table .implied inner)
    | some (.table .inline _) => none
    | some (.table origin inner) => do
      let inner ← changeAt? change rest inner
      return entries.set key (.table origin inner)
    | some (.tables elements) => do
      let elements ← changeLast? (changeAt? change rest) elements
      return entries.set key (.tables elements)
    | some _ => none

/-- Opens the table of a header under its last key. -/
def openTable? (key : String) (entries : Entries) : Option Entries :=
  match entries.get? key with
  | none => some (entries.set key (.table .header []))
  | some (.table .implied inner) => some (entries.set key (.table .header inner))
  | some _ => none

/-- Adds an element to the array of tables under a key. -/
def openElement? (key : String) (entries : Entries) : Option Entries :=
  match entries.get? key with
  | none => some (entries.set key (.tables [[]]))
  | some (.tables elements) => some (entries.set key (.tables (elements ++ [[]])))
  | some _ => none

/-- The entries of an inline table. -/
def ofPairs? (pairs : List (List String × Toml)) : Option Entries :=
  pairs.foldlM (fun entries (path, value) => setDotted? value path entries) []

end Entries

/-- A line of a document that says something. -/
inductive Line where
  | pair (path : List String) (value : Toml)
  | header (path : List String)
  | element (path : List String)

/-- The table that key-value pairs go to, and the whole document. -/
structure Document where
  current : List String
  root : Entries

def Document.add? (d : Document) : Line → Option Document
  | .pair path value => do
    return ⟨d.current, ← Entries.changeAt? (Entries.setDotted? value path) d.current d.root⟩
  | .header path => do
    let key ← path.getLast?
    return ⟨path, ← Entries.changeAt? (Entries.openTable? key) path.dropLast d.root⟩
  | .element path => do
    let key ← path.getLast?
    return ⟨path, ← Entries.changeAt? (Entries.openElement? key) path.dropLast d.root⟩

/-- The entries that the lines of a document make. -/
def ofLines? (lines : List Line) : Option Entries := do
  let d ← lines.foldlM Document.add? ⟨[], []⟩
  return d.root

end Toml
end DocumentPipeline
