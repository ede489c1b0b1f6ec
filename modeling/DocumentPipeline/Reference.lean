import DocumentPipeline.Text.Split

/-!
Databases and the references into them. A path is a sequence of segments; collections and documents
alternate along it, so a collection has an odd and a document an even number of segments. Every
reference carries its database.
-/
namespace DocumentPipeline

/-- One logical database: a project and a database in it. -/
structure DatabaseId where
  project : String
  database : String
  deriving DecidableEq

namespace DatabaseId

/-- The database of a project that is used when none is named. -/
def ofProject (project : String) : DatabaseId := ⟨project, "(default)"⟩

def resourceName (db : DatabaseId) : String :=
  "projects/" ++ db.project ++ "/databases/" ++ db.database

/-- Where the resource names of the documents begin. -/
def documentsRoot (db : DatabaseId) : String := db.resourceName ++ "/documents"

end DatabaseId

/-- Why a text is no path or resource name. -/
inductive PathFault where
  | empty
  | emptySegment (path : String)
  | documentPath (path : String)
  | collectionPath (path : String)
  | resourceName (name : String)
  deriving DecidableEq

def PathFault.message : PathFault → String
  | .empty => "path must not be empty"
  | .emptySegment path => "path '" ++ path ++ "' contains an empty segment"
  | .documentPath path => "'" ++ path ++ "' is a document path, not a collection path"
  | .collectionPath path => "'" ++ path ++ "' is a collection path, not a document path"
  | .resourceName name => "invalid document resource name '" ++ name ++ "'"

namespace Path

/-- The segments of a path. Slashes at either end do not count, and between two slashes there must
be something. -/
def segments (path : String) : Except PathFault (List String) :=
  match Text.trimChars '/' path.toList with
  | [] => .error .empty
  | trimmed =>
    let segments := Text.splitChars '/' trimmed
    if [] ∈ segments then .error (.emptySegment path)
    else .ok (segments.map String.ofList)

def join (segments : List String) : String := "/".intercalate segments

/-- A path below another. -/
def below (path id : String) : String := path ++ "/" ++ id

end Path

/-- A collection, at a path of an odd number of segments. -/
structure CollectionReference where
  database : DatabaseId
  segments : List String
  deriving DecidableEq

/-- A document, at a path of an even number of segments. -/
structure DocumentReference where
  database : DatabaseId
  segments : List String
  deriving DecidableEq

namespace CollectionReference

def ofPath (database : DatabaseId) (path : String) : Except PathFault CollectionReference := do
  let segments ← Path.segments path
  if segments.length % 2 = 0 then throw (.documentPath path)
  return ⟨database, segments⟩

def path (c : CollectionReference) : String := Path.join c.segments

/-- The last segment. -/
def id (c : CollectionReference) : String := c.segments.getLastD ""

/-- The document that a collection lies in, if it is not at the root. -/
def parent? (c : CollectionReference) : Option DocumentReference :=
  if c.segments.length ≤ 1 then none else some ⟨c.database, c.segments.dropLast⟩

end CollectionReference

namespace DocumentReference

def ofPath (database : DatabaseId) (path : String) : Except PathFault DocumentReference := do
  let segments ← Path.segments path
  if segments.length % 2 ≠ 0 then throw (.collectionPath path)
  return ⟨database, segments⟩

def path (d : DocumentReference) : String := Path.join d.segments

/-- The last segment. -/
def id (d : DocumentReference) : String := d.segments.getLastD ""

/-- The collection that a document lies in. -/
def parent (d : DocumentReference) : CollectionReference := ⟨d.database, d.segments.dropLast⟩

/-- The collection at a path below a document. -/
def collection (d : DocumentReference) (id : String) : Except PathFault CollectionReference :=
  CollectionReference.ofPath d.database (Path.below d.path id)

/-- The full name, which names the database too. -/
def resourceName (d : DocumentReference) : String :=
  d.database.documentsRoot ++ "/" ++ d.path

/-- The project, the database and the path in a text of the form
`projects/…/databases/…/documents/…`; each part ends where the next mark first stands. -/
def resourceParts? (name : String) : Option (String × String × String) := do
  let rest ← "projects/".toList.isPrefixOf? name.toList
  let (project, rest) ← Text.cutAt "/databases/".toList rest
  let (database, path) ← Text.cutAt "/documents/".toList rest
  guard (project ≠ [] ∧ database ≠ [])
  return (String.ofList project, String.ofList database, String.ofList path)

/-- The document that a full name stands for. -/
def ofResourceName (name : String) : Except PathFault DocumentReference :=
  match resourceParts? name with
  | none => .error (.resourceName name)
  | some (project, database, path) => ofPath ⟨project, database⟩ path

end DocumentReference

/-- The document at a path below a collection. -/
def CollectionReference.document (c : CollectionReference) (id : String) :
    Except PathFault DocumentReference :=
  DocumentReference.ofPath c.database (Path.below c.path id)

end DocumentPipeline
