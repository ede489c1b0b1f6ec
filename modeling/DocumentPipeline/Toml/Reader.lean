import DocumentPipeline.Toml.Scalar

/-!
Reading a TOML document, line by line. Arrays and inline tables nest to a limited depth, which is
what the reader of a value recurses on and which bounds the parts of a key too; the loops over their
items go on as long as the text gets shorter.
-/
namespace DocumentPipeline.Toml

def skipBlanks (s : List Char) : List Char := s.dropWhile fun c => c == ' ' || c == '\t'

/-- Skips blanks, line ends and comments; the flag says that a comment has begun. -/
def skipFiller : Bool → List Char → List Char
  | _, [] => []
  | _, '\n' :: rest => skipFiller false rest
  | _, '\r' :: '\n' :: rest => skipFiller false rest
  | true, c :: rest => if isPlain c then skipFiller true rest else c :: rest
  | false, c :: rest =>
    if c = ' ' ∨ c = '\t' then skipFiller false rest
    else if c = '#' then skipFiller true rest
    else c :: rest

def isKeyChar (c : Char) : Bool := c.isAlphanum || c == '_' || c == '-'

/-- A part of a key: a bare word or a string on one line. -/
def simpleKey? : Reader String
  | '"' :: rest => (basic? rest).map fun (s, after) => (String.ofList s, after)
  | '\'' :: rest => (literal? rest).map fun (s, after) => (String.ofList s, after)
  | s =>
    let bare := s.takeWhile isKeyChar
    if bare = [] then none else some (String.ofList bare, s.dropWhile isKeyChar)

/-- The parts of a key, which dots join, and the blanks after it. -/
def keyParts? (s : List Char) : Option (List String × List Char) := do
  let (part, rest) ← simpleKey? (skipBlanks s)
  match skipBlanks rest with
  | '.' :: more =>
    if more.length < s.length then
      let (parts, after) ← keyParts? more
      return (part :: parts, after)
    else none
  | rest => return ([part], rest)
termination_by s.length

/-- How deep arrays and inline tables may nest, and how many parts a key may have. -/
def nestingLimit : Nat := 79

/-- A key of dotted parts, not too many of them, and the blanks after it. -/
def key? : Reader (List String) := fun s => do
  let (parts, rest) ← keyParts? s
  if parts.length ≤ nestingLimit then return (parts, rest) else none

/-- A key, an equals sign and a value. -/
def pair? (value : Reader Toml) : Reader (List String × Toml) := fun s => do
  let (path, rest) ← key? s
  match rest with
  | '=' :: rest =>
    let (v, after) ← value (skipBlanks rest)
    return ((path, v), after)
  | _ => none

/-- The items of an array, from after its bracket. -/
def items? (value : Reader Toml) (s : List Char) : Option (List Toml × List Char) := do
  match skipFiller false s with
  | ']' :: rest => return ([], rest)
  | rest =>
    let (v, rest) ← value rest
    match skipFiller false rest with
    | ',' :: rest =>
      if rest.length < s.length then
        let (vs, after) ← items? value rest
        return (v :: vs, after)
      else none
    | ']' :: rest => return ([v], rest)
    | _ => none
termination_by s.length

/-- The pairs of an inline table after the first, from after a pair. -/
def morePairs? (value : Reader Toml) (s : List Char) :
    Option (List (List String × Toml) × List Char) := do
  match skipBlanks s with
  | '\x7d' :: rest => return ([], rest)
  | ',' :: rest =>
    let (p, rest) ← pair? value rest
    if rest.length < s.length then
      let (ps, after) ← morePairs? value rest
      return (p :: ps, after)
    else none
  | _ => none
termination_by s.length

/-- The pairs of an inline table, from after its brace. -/
def pairs? (value : Reader Toml) : Reader (List (List String × Toml)) := fun s => do
  match skipBlanks s with
  | '\x7d' :: rest => return ([], rest)
  | rest =>
    let (p, rest) ← pair? value rest
    let (ps, after) ← morePairs? value rest
    return (p :: ps, after)

/-- A value in which arrays and inline tables nest at most so deep. -/
def value? : Nat → Reader Toml
  | depth + 1, '[' :: rest => (items? (value? depth) rest).map fun (vs, after) => (.array vs, after)
  | depth + 1, '\x7b' :: rest => do
    let (ps, after) ← pairs? (value? depth) rest
    return (.table .inline (← Entries.ofPairs? ps), after)
  | _, s =>
    match string? s with
    | some (t, after) => some (.string t, after)
    | none => do
      let (w, after) := word s
      return (← ofWord? w, after)

/-- The end of a line that has said something: blanks and a comment may stand before it. -/
def lineEnd? (s : List Char) : Option (List Char) :=
  let rest := match skipBlanks s with
    | '#' :: rest => rest.dropWhile isPlain
    | rest => rest
  match rest with
  | [] => some []
  | '\n' :: rest => some rest
  | '\r' :: '\n' :: rest => some rest
  | _ => none

/-- A line that says something, without its end. -/
def line? : Reader Line
  | '[' :: '[' :: rest => do
    match ← key? rest with
    | (path, ']' :: ']' :: after) => return (.element path, after)
    | _ => none
  | '[' :: rest => do
    match ← key? rest with
    | (path, ']' :: after) => return (.header path, after)
    | _ => none
  | s => do
    let ((path, v), after) ← pair? (value? nestingLimit) s
    return (.pair path v, after)

/-- The lines of a document that say something. -/
def lines? (s : List Char) : Option (List Line) := do
  match skipFiller false s with
  | [] => return []
  | c :: rest =>
    let (l, after) ← line? (c :: rest)
    let after ← lineEnd? after
    if after.length < s.length then return l :: (← lines? after)
    else none
termination_by s.length

/-- The entries of a document; a mark of byte order before it is skipped. -/
def read? (text : String) : Option Entries := do
  let s := match text.toList with
    | '\ufeff' :: rest => rest
    | s => s
  ofLines? (← lines? s)

end DocumentPipeline.Toml
