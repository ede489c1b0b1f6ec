import DocumentPipeline.Text.Unprintable

/-!
Text in quotes for a reader: the quote and the backslash are escaped, and characters that cannot be
seen are shown by a letter or by their number.
-/
namespace DocumentPipeline.Text

/-- A number in base sixteen without leading zeros. -/
def hexNumber (n : Nat) : List Char := Nat.toDigits 16 n

def quoteChar (c : Char) : List Char :=
  if c = '"' ∨ c = '\\' then ['\\', c]
  else if c = '\x00' then ['\\', '0']
  else if c = '\t' then ['\\', 't']
  else if c = '\n' then ['\\', 'n']
  else if c = '\r' then ['\\', 'r']
  else if isUnprintable c then ['\\', 'u', '\x7b'] ++ hexNumber c.toNat ++ ['\x7d']
  else [c]

def quote (s : String) : String :=
  String.ofList ('"' :: s.toList.flatMap quoteChar ++ ['"'])

end DocumentPipeline.Text
