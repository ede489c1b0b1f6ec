import DocumentPipeline.Text.Alphanumeric
import DocumentPipeline.Text.Blank

/-!
Environment variables and files that assign them. A file is cut into logical lines, which go on as
long as a quote is open or a blank is last, and each line assigns one variable. A value may be
quoted in parts, may escape some characters, and may take in other variables by `$name` or by
`$` and a name in braces. The first bad line ends the file.
-/
namespace DocumentPipeline

/-- Variables with their values; of two with one name the first counts. -/
abbrev Environment := List (String × String)

namespace Environment

def get? (name : String) : Environment → Option String
  | [] => none
  | (k, v) :: rest => if k = name then some v else get? name rest

/-! Logical lines -/

/-- What a line is in the middle of. -/
inductive LineState where
  | complete
  | blank
  | escape
  | double
  | doubleEscape
  | single
  | singleEscape
  | comment
  deriving DecidableEq

namespace LineState

def opened (c : Char) : LineState :=
  if c = '\\' then .escape
  else if c = '"' then .double
  else if c = '\'' then .single
  else .complete

/-- The state after one more character; nothing leads out of a comment. -/
def next (s : LineState) (c : Char) : LineState :=
  match s with
  | .complete => if Text.isBlank c && c != '\n' && c != '\r' then .blank else opened c
  | .blank => if c = '#' then .comment else opened c
  | .escape => .complete
  | .double => if c = '\\' then .doubleEscape else if c = '"' then .complete else .double
  | .doubleEscape => .double
  | .single => if c = '\\' then .singleEscape else if c = '\'' then .complete else .single
  | .singleEscape => .single
  | .comment => .comment

end LineState

/-- The physical lines of a text, each with its line end. -/
def physicalLines : List Char → List (List Char)
  | [] => []
  | '\n' :: rest => ['\n'] :: physicalLines rest
  | c :: rest =>
    match physicalLines rest with
    | [] => [[c]]
    | line :: more => (c :: line) :: more

/-- The part of a line before a comment, and the state at its end. -/
def beforeComment : LineState → List Char → List Char × LineState
  | s, [] => ([], s)
  | s, c :: rest =>
    match s.next c with
    | .comment => ([], .comment)
    | s =>
      let (line, last) := beforeComment s rest
      (c :: line, last)

def trimLeft (s : List Char) : List Char := s.dropWhile Text.isBlank

def trimRight (s : List Char) : List Char := (s.reverse.dropWhile Text.isBlank).reverse

/-- The logical lines of physical ones, given what was read of a line that goes on. A line that the
end of the file cuts off is `none`. -/
def logicalLines (pending : List Char) (s : LineState) :
    List (List Char) → List (Option (List Char))
  | [] => if s = .complete then [] else [none]
  | line :: rest =>
    if (trimLeft (pending ++ line)).head? = some '#' then some [] :: logicalLines [] .complete rest
    else
      let (kept, s) := beforeComment s line
      if s = .complete ∨ s = .comment then
        some (pending ++ kept) :: logicalLines [] .complete rest
      else logicalLines (pending ++ kept) s rest

/-! Assignments -/

/-- The name of a variable at the start of a line. -/
def name? (s : List Char) : Option (List Char × List Char) := do
  guard (s.head?.any fun c => c.isAlpha || c == '_')
  let isNameChar := fun c : Char => c.isAlphanum || c == '_' || c == '.'
  return (s.takeWhile isNameChar, s.dropWhile isNameChar)

/-- The inside of a value, part way through. -/
inductive ValueState where
  | plain
  | escape (inDouble : Bool)
  | single
  | double
  /-- After a `$`: the name so far, in reverse. It goes on while letters and numbers follow. -/
  | bare (name : List Char) (inDouble : Bool)
  /-- After a `$` and a brace. -/
  | braced (name : List Char) (inDouble : Bool)
  /-- After a blank: only blanks and a comment may follow. -/
  | finished

/-- The value of a name that a value takes in. -/
def substitute (vars : Environment) (name : List Char) : List Char :=
  ((vars.get? (String.ofList name.reverse)).getD "").toList

/-- The state between the special parts of a value. -/
def ValueState.base (inDouble : Bool) : ValueState := if inDouble then .double else .plain

/-- Characters that a backslash gives. -/
def escaped? (c : Char) : Option Char :=
  if c = 'n' then some '\n'
  else if c ∈ ['\\', '\'', '"', '$', ' '] then some c
  else none

/-- Reads a value, given what was read of it in reverse. -/
def value? (vars : Environment) : ValueState → List Char → List Char → Option (List Char)
  | .braced .., _, [] => none
  | .single, _, [] => none
  | .double, _, [] => none
  | .escape true, _, [] => none
  | .bare _ true, _, [] => none
  | .bare name false, out, [] => some (out.reverse ++ substitute vars name)
  | _, out, [] => some out.reverse
  | .finished, out, c :: rest =>
    if c = ' ' ∨ c = '\t' then value? vars .finished out rest
    else if c = '#' then some out.reverse
    else none
  | .escape inDouble, out, c :: rest =>
    match escaped? c with
    | none => none
    | some e => value? vars (.base inDouble) (e :: out) rest
  | .single, out, c :: rest =>
    if c = '\'' then value? vars .plain out rest else value? vars .single (c :: out) rest
  | .bare name inDouble, out, c :: rest =>
    if Text.isAlphanumeric c then value? vars (.bare (c :: name) inDouble) out rest
    else if c = '\x7b' ∧ name = [] then value? vars (.braced [] inDouble) out rest
    else
      let out := (substitute vars name).reverse ++ out
      if c = '$' then value? vars (.bare [] inDouble) out rest
      else value? vars (.base inDouble) (c :: out) rest
  | .braced name inDouble, out, c :: rest =>
    if c = '\x7d' then
      value? vars (.base inDouble) ((substitute vars name).reverse ++ out) rest
    else value? vars (.braced (c :: name) inDouble) out rest
  | .double, out, c :: rest =>
    if c = '$' then value? vars (.bare [] true) out rest
    else if c = '"' then value? vars .plain out rest
    else if c = '\\' then value? vars (.escape true) out rest
    else value? vars .double (c :: out) rest
  | .plain, out, c :: rest =>
    if c = '$' then value? vars (.bare [] false) out rest
    else if c = '\'' then value? vars .single out rest
    else if c = '"' then value? vars .double out rest
    else if c = '\\' then value? vars (.escape false) out rest
    else if c = ' ' ∨ c = '\t' then value? vars .finished out rest
    else value? vars .plain (c :: out) rest

/-- What stands after an equals sign. -/
def afterEquals? : List Char → Option (List Char)
  | '=' :: rest => some rest
  | _ => none

/-- The name that a line assigns and the text of its value. The word `export` may stand before the
name, and may be a name itself. -/
def assignment? (line : List Char) : Option (String × List Char) := do
  let (name, rest) ← name? line
  let rest := trimLeft rest
  if String.ofList name = "export" ∧ (afterEquals? rest).isNone then
    let (name, rest) ← name? rest
    return (String.ofList name, trimLeft (← afterEquals? (trimLeft rest)))
  else return (String.ofList name, trimLeft (← afterEquals? rest))

/-- What a logical line does: nothing, or an assignment. -/
def readLine? (vars : Environment) (line : List Char) : Option (Option (String × String)) := do
  let line := trimLeft (trimRight line)
  if line = [] ∨ line.head? = some '#' then return none
  let (name, text) ← assignment? line
  if text = [] ∨ text.head? = some '#' then return some (name, "")
  return some (name, String.ofList (← value? vars .plain [] text))

/-- Adds the variables that lines assign, except those that are set; stops at a bad line. -/
def addLines (vars : Environment) : List (Option (List Char)) → Environment
  | [] => vars
  | none :: _ => vars
  | some line :: rest =>
    match readLine? vars line with
    | none => vars
    | some none => addLines vars rest
    | some (some (name, value)) =>
      addLines (if (vars.get? name).isSome then vars else vars ++ [(name, value)]) rest

/-- Adds the variables that a file assigns; a mark of byte order before it is skipped. -/
def addFile (vars : Environment) (text : String) : Environment :=
  let s := match text.toList with
    | '\ufeff' :: rest => rest
    | s => s
  addLines vars (logicalLines [] .complete (physicalLines s))

end Environment
end DocumentPipeline
