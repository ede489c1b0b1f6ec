import DocumentPipeline.Decimal.Layout
import DocumentPipeline.Json
import DocumentPipeline.Text.Hex

/-!
JSON texts without blanks. A string escapes its quote, the backslash and the control characters and
holds all other characters as they are.
-/
namespace DocumentPipeline.Json

/-- A character inside a string. -/
def printChar (c : Char) : List Char :=
  if c = '"' then ['\\', '"']
  else if c = '\\' then ['\\', '\\']
  else if c = '\x08' then ['\\', 'b']
  else if c = '\x0c' then ['\\', 'f']
  else if c = '\n' then ['\\', 'n']
  else if c = '\r' then ['\\', 'r']
  else if c = '\t' then ['\\', 't']
  else if c < ' ' then ['\\', 'u'] ++ Text.Hex.fixed 4 c.toNat
  else [c]

def printString (s : String) : String :=
  String.ofList ('"' :: s.toList.flatMap printChar ++ ['"'])

mutual

/-- The compact text of a value. -/
def print : Json → String
  | .null => "null"
  | .bool b => if b then "true" else "false"
  | .int n => toString n
  | .double x => if x.isFinite then Layout.json.write x else "null"
  | .string s => printString s
  | .array items => "[" ++ ",".intercalate (printItems items) ++ "]"
  | .object members => "\x7b" ++ ",".intercalate (printMembers members) ++ "\x7d"

def printItems : List Json → List String
  | [] => []
  | j :: rest => j.print :: printItems rest

def printMembers : List (String × Json) → List String
  | [] => []
  | (name, j) :: rest => (printString name ++ ":" ++ j.print) :: printMembers rest

end

end DocumentPipeline.Json
