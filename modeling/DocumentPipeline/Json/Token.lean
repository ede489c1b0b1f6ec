import DocumentPipeline.Json.Numeral
import DocumentPipeline.Text.Hex

/-!
The tokens of a JSON text. Grammar and value are kept apart: a numeral out of range and a string
with half of a surrogate pair are well formed, but have no value.
-/
namespace DocumentPipeline.Json

/-- A token. Numbers and strings without a value are `none`. -/
inductive Token where
  | openArray
  | closeArray
  | openObject
  | closeObject
  | comma
  | colon
  | null
  | bool (value : Bool)
  | number (value : Option Number)
  | string (value : Option String)

namespace Token

def isBlank (c : Char) : Bool := c == ' ' || c == '\n' || c == '\t' || c == '\r'

def punctuation? (c : Char) : Option Token :=
  match c with
  | '[' => some .openArray
  | ']' => some .closeArray
  | '\x7b' => some .openObject
  | '\x7d' => some .closeObject
  | ',' => some .comma
  | ':' => some .colon
  | _ => none

/-- Characters of names and numerals. -/
def isWordChar (c : Char) : Bool :=
  c.isAlphanum || c == '+' || c == '-' || c == '.'

def ofWord? (word : List Char) : Option Token :=
  if word = ['n', 'u', 'l', 'l'] then some .null
  else if word = ['t', 'r', 'u', 'e'] then some (.bool true)
  else if word = ['f', 'a', 'l', 's', 'e'] then some (.bool false)
  else (Numeral.ofChars? word).map fun n => .number n.number?

/-- What a string is made of: characters, and UTF-16 units given by number. -/
inductive Piece where
  | char (c : Char)
  | unit (n : Nat)

/-- The character that a backslash and a letter stand for. -/
def escape? (c : Char) : Option Char :=
  match c with
  | '"' => some '"'
  | '\\' => some '\\'
  | '/' => some '/'
  | 'b' => some '\x08'
  | 'f' => some '\x0c'
  | 'n' => some '\n'
  | 'r' => some '\r'
  | 't' => some '\t'
  | _ => none

/-- Reads the inside of a string up to its closing quote: its pieces and the text after it. Control
characters must be escaped. -/
def pieces? : List Char → Option (List Piece × List Char)
  | [] => none
  | '"' :: rest => some ([], rest)
  | '\\' :: 'u' :: a :: b :: c :: d :: rest => do
    let n ← Text.Hex.number? [a, b, c, d]
    let (more, after) ← pieces? rest
    return (.unit n :: more, after)
  | '\\' :: c :: rest => do
    let e ← escape? c
    let (more, after) ← pieces? rest
    return (.char e :: more, after)
  | c :: rest =>
    if c < ' ' ∨ c = '\\' then none
    else do
      let (more, after) ← pieces? rest
      return (.char c :: more, after)

def isHighUnit (n : Nat) : Bool := 0xD800 ≤ n && n < 0xDC00

def isLowUnit (n : Nat) : Bool := 0xDC00 ≤ n && n < 0xE000

/-- The characters of a string. A high unit must stand before a low one, which it joins. -/
def chars? : List Piece → Option (List Char)
  | [] => some []
  | .char c :: rest => (chars? rest).map (c :: ·)
  | .unit n :: rest =>
    if isLowUnit n then none
    else if isHighUnit n then
      match rest with
      | .unit m :: rest =>
        if isLowUnit m then
          (chars? rest).map (Char.ofNat (0x10000 + (n - 0xD800) * 0x400 + (m - 0xDC00)) :: ·)
        else none
      | _ => none
    else (chars? rest).map (Char.ofNat n :: ·)

theorem length_pieces? {s after : List Char} {pieces : List Piece}
    (h : pieces? s = some (pieces, after)) : after.length < s.length := by
  fun_induction pieces? s generalizing pieces after with
  | case1 => simp at h
  | case2 rest => simp_all
  | case3 a b c d rest ih =>
    simp only [Option.bind_eq_bind, Option.bind_eq_some_iff, Option.pure_def, Option.some.injEq,
      Prod.mk.injEq] at h
    obtain ⟨_, _, ⟨p, r⟩, hr, _, rfl⟩ := h
    have := ih hr
    simp only [List.length_cons]
    omega
  | case4 c rest _ ih =>
    simp only [Option.bind_eq_bind, Option.bind_eq_some_iff, Option.pure_def, Option.some.injEq,
      Prod.mk.injEq] at h
    obtain ⟨_, _, ⟨p, r⟩, hr, _, rfl⟩ := h
    have := ih hr
    simp only [List.length_cons]
    omega
  | case5 => simp at h
  | case6 c rest _ _ _ _ ih =>
    simp only [Option.bind_eq_bind, Option.bind_eq_some_iff, Option.pure_def, Option.some.injEq,
      Prod.mk.injEq] at h
    obtain ⟨⟨p, r⟩, hr, _, rfl⟩ := h
    have := ih hr
    simp only [List.length_cons]
    omega

/-- The tokens of a text, if all of it can be read. -/
def all? (s : List Char) : Option (List Token) :=
  match s with
  | [] => some []
  | c :: rest =>
    if isBlank c then all? rest
    else if let some t := punctuation? c then (all? rest).map (t :: ·)
    else if c = '"' then
      match h : pieces? rest with
      | none => none
      | some (pieces, after) =>
        have : after.length ≤ rest.length := Nat.le_of_lt (length_pieces? h)
        (all? after).map (.string ((chars? pieces).map String.ofList) :: ·)
    else if isWordChar c then
      have : (rest.dropWhile isWordChar).length ≤ rest.length :=
        (List.dropWhile_suffix isWordChar).length_le
      do
        let t ← ofWord? (c :: rest.takeWhile isWordChar)
        return t :: (← all? (rest.dropWhile isWordChar))
    else none
termination_by s.length

end Token
end DocumentPipeline.Json
