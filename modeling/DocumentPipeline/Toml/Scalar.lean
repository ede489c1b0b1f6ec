import DocumentPipeline.Text.Hex
import DocumentPipeline.Toml

/-!
Strings, numbers, booleans and times of TOML. Strings come in four forms; the reader of each is
given the text after the opening quotes. Numbers and times are words without blanks, except that a
date may be followed by a blank and a time of day.
-/
namespace DocumentPipeline.Toml

/-- A reader takes a part off the front of a text. -/
abbrev Reader (α : Type) := List Char → Option (α × List Char)

/-- Characters that may stand in strings and comments as they are. -/
def isPlain (c : Char) : Bool := c == '\t' || (' ' ≤ c && c != '\x7f')

/-- The character that a backslash and a letter stand for. -/
def escape? (c : Char) : Option Char :=
  match c with
  | '"' => some '"'
  | '\\' => some '\\'
  | 'b' => some '\x08'
  | 't' => some '\t'
  | 'n' => some '\n'
  | 'f' => some '\x0c'
  | 'r' => some '\r'
  | _ => none

/-- The character with a number, if there is one. -/
def ofScalar? (digits : List Char) : Option Char := do
  let n ← Text.Hex.number? digits
  if n < 0xD800 ∨ (0xDFFF < n ∧ n < 0x110000) then some (Char.ofNat n) else none

/-- A string in single quotes, on one line. -/
def literal? : Reader (List Char)
  | [] => none
  | '\'' :: rest => some ([], rest)
  | c :: rest => do
    guard (isPlain c)
    let (more, after) ← literal? rest
    return (c :: more, after)

/-- A string in double quotes, on one line, with escapes. -/
def basic? : Reader (List Char)
  | [] => none
  | '"' :: rest => some ([], rest)
  | '\\' :: 'u' :: a :: b :: c :: d :: rest => do
    let x ← ofScalar? [a, b, c, d]
    let (more, after) ← basic? rest
    return (x :: more, after)
  | '\\' :: 'U' :: a :: b :: c :: d :: e :: f :: g :: h :: rest => do
    let x ← ofScalar? [a, b, c, d, e, f, g, h]
    let (more, after) ← basic? rest
    return (x :: more, after)
  | '\\' :: c :: rest => do
    let x ← escape? c
    let (more, after) ← basic? rest
    return (x :: more, after)
  | c :: rest => do
    guard (isPlain c ∧ c ≠ '\\')
    let (more, after) ← basic? rest
    return (c :: more, after)

/-- Splits off the quotes that a text begins with: their number and the rest. -/
def quotes (quote : Char) (s : List Char) : Nat × List Char :=
  ((s.takeWhile (· == quote)).length, s.dropWhile (· == quote))

/-- The end of a string over several lines, at quotes in its text: up to two of them are text, three
end the string, and up to two more before the end are text. -/
def closing? (quote : Char) (n : Nat) : Option (List Char) :=
  if 3 ≤ n ∧ n ≤ 5 then some (List.replicate (n - 3) quote) else none

/-- A string in three single quotes. The count is of the quotes just read. -/
def literalLines? : Nat → Reader (List Char)
  | n, [] => (closing? '\'' n).map (·, [])
  | n, '\'' :: rest => literalLines? (n + 1) rest
  | n, '\r' :: '\n' :: rest =>
    if 3 ≤ n then (closing? '\'' n).map (·, '\r' :: '\n' :: rest)
    else do
      let (more, after) ← literalLines? 0 rest
      return (List.replicate n '\'' ++ '\n' :: more, after)
  | n, c :: rest =>
    if 3 ≤ n then (closing? '\'' n).map (·, c :: rest)
    else do
      guard (isPlain c ∨ c = '\n')
      let (more, after) ← literalLines? 0 rest
      return (List.replicate n '\'' ++ c :: more, after)

/-- Whether a text begins with blanks and the end of a line, as it does after a backslash that joins
lines. -/
def lineEnds : List Char → Bool
  | '\n' :: _ => true
  | '\r' :: '\n' :: _ => true
  | c :: rest => (c == ' ' || c == '\t') && lineEnds rest
  | [] => false

/-- A string in three double quotes. The count is of the quotes just read; the flag says that blanks
and line ends are skipped. -/
def basicLines? : Nat → Bool → Reader (List Char)
  | n, _, [] => (closing? '"' n).map (·, [])
  | n, _, '"' :: rest => basicLines? (n + 1) false rest
  | n, true, ' ' :: rest => basicLines? n true rest
  | n, true, '\t' :: rest => basicLines? n true rest
  | n, true, '\n' :: rest => basicLines? n true rest
  | n, true, '\r' :: '\n' :: rest => basicLines? n true rest
  | n, _, '\\' :: 'u' :: a :: b :: c :: d :: rest =>
    if 3 ≤ n then (closing? '"' n).map (·, '\\' :: 'u' :: a :: b :: c :: d :: rest)
    else do
      let x ← ofScalar? [a, b, c, d]
      let (more, after) ← basicLines? 0 false rest
      return (List.replicate n '"' ++ x :: more, after)
  | n, _, '\\' :: 'U' :: a :: b :: c :: d :: e :: f :: g :: h :: rest =>
    if 3 ≤ n then
      (closing? '"' n).map (·, '\\' :: 'U' :: a :: b :: c :: d :: e :: f :: g :: h :: rest)
    else do
      let x ← ofScalar? [a, b, c, d, e, f, g, h]
      let (more, after) ← basicLines? 0 false rest
      return (List.replicate n '"' ++ x :: more, after)
  | n, _, '\\' :: c :: rest =>
    if 3 ≤ n then (closing? '"' n).map (·, '\\' :: c :: rest)
    else if lineEnds (c :: rest) then do
      let (more, after) ← basicLines? 0 true rest
      return (List.replicate n '"' ++ more, after)
    else do
      let x ← escape? c
      let (more, after) ← basicLines? 0 false rest
      return (List.replicate n '"' ++ x :: more, after)
  | n, _, '\r' :: '\n' :: rest =>
    if 3 ≤ n then (closing? '"' n).map (·, '\r' :: '\n' :: rest)
    else do
      let (more, after) ← basicLines? 0 false rest
      return (List.replicate n '"' ++ '\n' :: more, after)
  | n, _, c :: rest =>
    if 3 ≤ n then (closing? '"' n).map (·, c :: rest)
    else do
      guard ((isPlain c ∨ c = '\n') ∧ c ≠ '\\')
      let (more, after) ← basicLines? 0 false rest
      return (List.replicate n '"' ++ c :: more, after)

/-- A string of several lines may begin on the line after its quotes. -/
def skipLineEnd : List Char → List Char
  | '\n' :: rest => rest
  | '\r' :: '\n' :: rest => rest
  | s => s

/-- A string of any form, from its opening quotes. -/
def string? : Reader String
  | '"' :: '"' :: '"' :: rest =>
    (basicLines? 0 false (skipLineEnd rest)).map fun (s, after) => (String.ofList s, after)
  | '\'' :: '\'' :: '\'' :: rest =>
    (literalLines? 0 (skipLineEnd rest)).map fun (s, after) => (String.ofList s, after)
  | '"' :: rest => (basic? rest).map fun (s, after) => (String.ofList s, after)
  | '\'' :: rest => (literal? rest).map fun (s, after) => (String.ofList s, after)
  | _ => none

/-! Words -/

/-- Digits with single underscores between them, without the underscores. -/
def digits? (isDigit : Char → Bool) : List Char → Option (List Char)
  | [] => none
  | [c] => if isDigit c then some [c] else none
  | c :: '_' :: rest => if isDigit c then (digits? isDigit rest).map (c :: ·) else none
  | c :: rest => if isDigit c then (digits? isDigit rest).map (c :: ·) else none

/-- The number that digits spell in a base. -/
def number (base : Nat) (digits : List Char) : Nat :=
  digits.foldl (fun n c => base * n + (Text.Hex.value? c).getD 0) 0

def isOctal (c : Char) : Bool := '0' ≤ c && c ≤ '7'

def isBinary (c : Char) : Bool := c == '0' || c == '1'

def isHex (c : Char) : Bool := (Text.Hex.value? c).isSome

/-- Splits off a sign; the flag says that it is a minus. -/
def sign : List Char → Bool × List Char
  | '-' :: rest => (true, rest)
  | '+' :: rest => (false, rest)
  | s => (false, s)

/-- Digits of a decimal number, which does not begin with a zero unless it is one. -/
def decimal? (s : List Char) : Option (List Char) := do
  let digits ← digits? Char.isDigit s
  guard (digits.head? = some '0' → digits.length = 1)
  return digits

/-- An integer of 64 bits with sign, in base ten or with the mark of another base. -/
def integer? (word : List Char) : Option Int := do
  let n : Int ← match word with
    | '0' :: 'x' :: rest => (digits? isHex rest).map fun ds => (number 16 ds : Int)
    | '0' :: 'o' :: rest => (digits? isOctal rest).map fun ds => (number 8 ds : Int)
    | '0' :: 'b' :: rest => (digits? isBinary rest).map fun ds => (number 2 ds : Int)
    | _ =>
      let (negative, rest) := sign word
      (decimal? rest).map fun ds => if negative then -(number 10 ds : Int) else number 10 ds
  guard (Int64.minValue.toInt ≤ n ∧ n ≤ Int64.maxValue.toInt)
  return n

/-- The digits after the exponent mark, if the word goes on with one or ends. -/
def exponent? : List Char → Option Int
  | [] => some 0
  | mark :: rest => do
    guard (mark = 'e' ∨ mark = 'E')
    let (negative, rest) := sign rest
    let n := number 10 (← digits? Char.isDigit rest)
    return if negative then -n else n

def isMark (c : Char) : Bool := c == 'e' || c == 'E'

/-- Whether digits times a power of ten go beyond the doubles, half a unit past the greatest. -/
def overflows (digits : List Char) (exponent : Int) : Bool :=
  let significant := digits.dropWhile (· == '0')
  let lead := exponent + significant.length
  if significant.isEmpty || lead < 309 then false
  else if 309 < lead then true
  else
    let n := number 10 significant
    (1 <<< 54 - 1) <<< 970 * Nat.pow 10 (-exponent).toNat ≤ n * Nat.pow 10 exponent.toNat

/-- A float: a fraction or an exponent, or a name. One that is too large is refused, unless it is
negative. -/
def isFloat (word : List Char) : Bool :=
  let (negative, rest) := sign word
  if rest = ['i', 'n', 'f'] ∨ rest = ['n', 'a', 'n'] then true
  else
    let whole := rest.takeWhile fun c => c != '.' && !isMark c
    let tail := rest.dropWhile fun c => c != '.' && !isMark c
    let parts : Option (List Char × List Char) :=
      match tail with
      | [] => none
      | '.' :: tail => do
        let fraction ← digits? Char.isDigit (tail.takeWhile (!isMark ·))
        return (fraction, tail.dropWhile (!isMark ·))
      | tail => some ([], tail)
    let value : Option (List Char × Int) := do
      let (fraction, tail) ← parts
      let digits ← decimal? whole
      return (digits ++ fraction, (← exponent? tail) - fraction.length)
    match value with
    | none => false
    | some (digits, exponent) => negative || !overflows digits exponent

/-- A number of two digits within bounds. -/
def twoDigits (low high : Nat) (a b : Char) : Bool :=
  a.isDigit && b.isDigit && low ≤ number 10 [a, b] && number 10 [a, b] ≤ high

def daysOfMonth (year month : Nat) : Nat :=
  if month = 2 then if year % 4 = 0 ∧ (year % 100 ≠ 0 ∨ year % 400 = 0) then 29 else 28
  else if month = 4 ∨ month = 6 ∨ month = 9 ∨ month = 11 then 30
  else 31

def isOffset : List Char → Bool
  | [] => true
  | ['Z'] | ['z'] => true
  | [s, a, b, ':', c, d] => (s == '+' || s == '-') && twoDigits 0 23 a b && twoDigits 0 59 c d
  | _ => false

/-- A time of day with a fraction; what comes after it is checked by itself. -/
def isTimeWith (after : List Char → Bool) : List Char → Bool
  | a :: b :: ':' :: c :: d :: ':' :: e :: f :: rest =>
    twoDigits 0 23 a b && twoDigits 0 59 c d && twoDigits 0 60 e f &&
      match rest with
      | '.' :: rest => rest.head?.any Char.isDigit && after (rest.dropWhile Char.isDigit)
      | rest => after rest
  | _ => false

/-- A date, a date with a time of day, or a time of day. -/
def isTime (word : List Char) : Bool :=
  isTimeWith List.isEmpty word ||
    match word with
    | a :: b :: c :: d :: '-' :: e :: f :: '-' :: g :: h :: rest =>
      [a, b, c, d].all Char.isDigit && twoDigits 1 12 e f &&
        twoDigits 1 (daysOfMonth (number 10 [a, b, c, d]) (number 10 [e, f])) g h &&
        match rest with
        | [] => true
        | mark :: rest => (mark == 'T' || mark == 't' || mark == ' ') && isTimeWith isOffset rest
    | _ => false

def isWordChar (c : Char) : Bool :=
  c.isAlphanum || c == '_' || c == '+' || c == '-' || c == '.' || c == ':'

/-- Whether a word has the form of a date, so that a time may follow after a blank. -/
def isDateForm : List Char → Bool
  | [a, b, c, d, '-', e, f, '-', g, h] => [a, b, c, d, e, f, g, h].all Char.isDigit
  | _ => false

/-- Splits off a word. -/
def word (s : List Char) : List Char × List Char :=
  let first := s.takeWhile isWordChar
  let rest := s.dropWhile isWordChar
  match isDateForm first, rest with
  | true, ' ' :: c :: more =>
    if c.isDigit then
      (first ++ ' ' :: (c :: more).takeWhile isWordChar, (c :: more).dropWhile isWordChar)
    else (first, rest)
  | _, _ => (first, rest)

/-- The value of a word. -/
def ofWord? (w : List Char) : Option Toml :=
  if w = ['t', 'r', 'u', 'e'] then some (.boolean true)
  else if w = ['f', 'a', 'l', 's', 'e'] then some (.boolean false)
  else match integer? w with
    | some n => some (.integer n)
    | none => if isFloat w then some .float else if isTime w then some .time else none

end DocumentPipeline.Toml
