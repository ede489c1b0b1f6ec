import DocumentPipeline.ClientError
import DocumentPipeline.Environment
import DocumentPipeline.Protocol.Request
import DocumentPipeline.Toml.Printer
import DocumentPipeline.Toml.Reader

/-!
The settings of a client: which database it works on, how it treats absent values, whether it asks
for statistics, and how long a pipeline it sends. They are read from a TOML document and may be
overridden by environment variables, which a file beside the document may assign.
-/
namespace DocumentPipeline

structure Settings where
  projectId : String
  databaseId : String
  skipUndefined : Bool
  explain : Option ExplainMode
  maxStages : Nat
  deriving DecidableEq

namespace Settings

/-- The settings of a project that leaves all else open. -/
def ofProject (project : String) : Settings :=
  ⟨project, (DatabaseId.ofProject project).database, false, none, 1000⟩

def database (s : Settings) : DatabaseId := ⟨s.projectId, s.databaseId⟩

/-- Settings need a project, a database and room for one stage. -/
def check (s : Settings) : Except ConfigFault Unit :=
  if s.projectId = "" then .error .noProject
  else if s.databaseId = "" then .error .noDatabase
  else if s.maxStages = 0 then .error .noStages
  else .ok ()

def toJson (s : Settings) : Json :=
  .ofMembers <|
    [("project_id", .string s.projectId), ("database_id", .string s.databaseId),
      ("ignore_undefined_properties", .bool s.skipUndefined),
      ("max_stages", .ofNat s.maxStages)] ++
      Json.optional "explain" (s.explain.map fun m => .string m.name)

/-! TOML -/

def isEmptyTable : Toml → Bool
  | .table _ [] => true
  | .array [] => true
  | .tables [] => true
  | _ => false

/-- A mode by its name, or by the only key of a table with an empty value. -/
def explainOfToml? : Toml → Option ExplainMode
  | .string name => ExplainMode.ofName? name
  | .table _ [(name, value)] => if isEmptyTable value then ExplainMode.ofName? name else none
  | _ => none

def textOfToml? : Toml → Option String
  | .string s => some s
  | _ => none

def flagOfToml? : Toml → Option Bool
  | .boolean b => some b
  | _ => none

def countOfToml? : Toml → Option Nat
  | .integer n => if 0 ≤ n then some n.toNat else none
  | _ => none

/-- A setting that may be left out. -/
def setting? {α : Type} (entries : Toml.Entries) (key : String) (read : Toml → Option α)
    (unset : α) : Option α :=
  (entries.get? key).elim (some unset) read

/-- The settings that a document gives; keys that are no settings are skipped. -/
def ofEntries? (entries : Toml.Entries) : Option Settings := do
  let project ← textOfToml? (← entries.get? "project_id")
  let unset := ofProject project
  return {
    projectId := project
    databaseId := ← setting? entries "database_id" textOfToml? unset.databaseId
    skipUndefined := ← setting? entries "ignore_undefined_properties" flagOfToml? false
    explain := ← setting? entries "explain" (fun t => (explainOfToml? t).map some) none
    maxStages := ← setting? entries "max_stages" countOfToml? unset.maxStages }

def read? (text : String) : Option Settings := do ofEntries? (← Toml.read? text)

/-- The settings in a text, if they can be used. -/
def ofToml (text : String) : Except ConfigFault Settings := do
  match read? text with
  | none => throw .unreadable
  | some s =>
    s.check
    return s

/-- The text of settings. Integers of TOML have 64 bits with sign. -/
def toToml (s : Settings) : Except ConfigFault String :=
  if Int64.maxValue.toInt < s.maxStages then .error .tooLarge
  else
    let line (key value : String) := key ++ " = " ++ value ++ "\n"
    .ok <|
      line "project_id" (Toml.printString s.projectId) ++
        line "database_id" (Toml.printString s.databaseId) ++
        line "ignore_undefined_properties" (if s.skipUndefined then "true" else "false") ++
        (s.explain.elim "" fun m => line "explain" (Toml.printString m.name)) ++
        line "max_stages" (Nat.repr s.maxStages)

/-! Loading -/

/-- The variables that override settings. -/
def projectVariable : String := "DOCPIPE_PROJECT_ID"

def databaseVariable : String := "DOCPIPE_DATABASE_ID"

def skipUndefinedVariable : String := "DOCPIPE_IGNORE_UNDEFINED_PROPERTIES"

/-- A text that is there and not empty. -/
def nonempty? (s : Option String) : Option String := s.filter (· ≠ "")

def flag? (text : String) : Option Bool :=
  if text = "true" then some true else if text = "false" then some false else none

/-- Settings overridden by the variables that are set: texts unless they are empty, the flag if its
text is one. -/
def override (vars : Environment) (s : Settings) : Settings :=
  { s with
    projectId := (nonempty? (vars.get? projectVariable)).getD s.projectId
    databaseId := (nonempty? (vars.get? databaseVariable)).getD s.databaseId
    skipUndefined := ((vars.get? skipUndefinedVariable).bind flag?).getD s.skipUndefined }

/-- Why settings cannot be loaded. -/
inductive LoadError where
  | missing
  | unreadable
  | unusable (fault : ConfigFault)

/-- The name of the document in its directory. -/
def fileName : String := "docpipe.toml"

/-- The words for a failure with the files in a directory. -/
def LoadError.message (directory : String) : LoadError → String
  | .missing => "Configuration file not found: " ++ directory ++ "/" ++ fileName
  | .unreadable => "parsing " ++ directory ++ "/" ++ fileName
  | .unusable fault => (ClientError.config fault).message

/-- Loads settings from a directory: the file of assignments is taken in first. -/
def load (vars : Environment) (assignments document : Option String) :
    Except LoadError Settings := do
  let vars := assignments.elim vars vars.addFile
  match document with
  | none => throw .missing
  | some text =>
    match read? text with
    | none => throw .unreadable
    | some s =>
      let s := s.override vars
      s.check.mapError .unusable
      return s

end Settings
end DocumentPipeline
