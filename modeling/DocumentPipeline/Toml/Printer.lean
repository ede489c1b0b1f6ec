import DocumentPipeline.Text.Hex

/-!
Strings of TOML in the form that needs the fewest escapes: double quotes if nothing has to be
escaped, else single quotes, else three double or three single quotes, and escapes only when no form
does without them.
-/
namespace DocumentPipeline.Toml

/-- The length of the longest run of a character; `run` is the length of the run just read. -/
def longestRun (c : Char) (run : Nat) : List Char → Nat
  | [] => run
  | d :: rest => if d = c then longestRun c (run + 1) rest else max run (longestRun c 0 rest)

/-- A character that only an escape can write. -/
def needsEscape (c : Char) : Bool := c == '\x7f' || (c < ' ' && c != '\t' && c != '\n')

/-- A character inside double quotes. -/
def escapeChar (c : Char) : List Char :=
  if c = '\x08' then ['\\', 'b']
  else if c = '\t' then ['\\', 't']
  else if c = '\n' then ['\\', 'n']
  else if c = '\x0c' then ['\\', 'f']
  else if c = '\r' then ['\\', 'r']
  else if c = '"' then ['\\', '"']
  else if c = '\\' then ['\\', '\\']
  else if needsEscape c then ['\\', 'u'] ++ (Text.Hex.fixed 4 c.toNat).map Char.toUpper
  else [c]

/-- Characters inside three double quotes: lines end as they do, and every third quote in a row is
escaped. The count is of the quotes just written. -/
def escapeLines : Nat → List Char → List Char
  | _, [] => []
  | n, '"' :: rest =>
    if n < 2 then '"' :: escapeLines (n + 1) rest else ['\\', '"'] ++ escapeLines 0 rest
  | _, '\n' :: rest => '\n' :: escapeLines 0 rest
  | _, c :: rest => escapeChar c ++ escapeLines 0 rest

/-- Text between three quotes begins on a line of its own if it has several lines. -/
def betweenTriples (quote : Char) (lines : Bool) (body : List Char) : List Char :=
  let triple := List.replicate 3 quote
  triple ++ (if lines then ['\n'] else []) ++ body ++ triple

def printString (s : String) : String :=
  let cs := s.toList
  let lines := cs.contains '\n'
  let escapes := cs.any needsEscape
  let backslash := cs.contains '\\'
  let singles := longestRun '\'' 0 cs
  let doubles := longestRun '"' 0 cs
  let inDouble := '"' :: cs.flatMap escapeChar ++ ['"']
  String.ofList <|
    if !escapes && !backslash && doubles = 0 && !lines then inDouble
    else if !escapes && singles = 0 && !lines then '\'' :: cs ++ ['\'']
    else if !escapes && !backslash && doubles ≤ 2 then betweenTriples '"' lines (escapeLines 0 cs)
    else if !escapes && singles ≤ 2 then betweenTriples '\'' lines cs
    else if lines then betweenTriples '"' lines (escapeLines 0 cs)
    else inDouble

end DocumentPipeline.Toml
