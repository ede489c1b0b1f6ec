/-!
Cutting text at a separator. `split` cuts everywhere and keeps empty pieces, so that joining the
pieces gives the text back; `cutAt` cuts once, at the first place where the separator stands.
-/
namespace DocumentPipeline.Text

/-- The pieces between the separators, the empty ones included; there is always one piece. -/
def splitChars (sep : Char) : List Char → List (List Char)
  | [] => [[]]
  | c :: rest =>
    if c = sep then [] :: splitChars sep rest
    else match splitChars sep rest with
      | [] => [[c]]
      | piece :: more => (c :: piece) :: more

def split (sep : Char) (s : String) : List String :=
  (splitChars sep s.toList).map String.ofList

/-- The text without any leading and trailing `c`. -/
def trimChars (c : Char) (s : List Char) : List Char :=
  ((s.dropWhile (· == c)).reverse.dropWhile (· == c)).reverse

/-- What stands before and after the first occurrence of the separator. -/
def cutAt (sep : List Char) : List Char → Option (List Char × List Char)
  | [] => if sep = [] then some ([], []) else none
  | c :: rest =>
    match sep.isPrefixOf? (c :: rest) with
    | some after => some ([], after)
    | none => (cutAt sep rest).map fun (before, after) => (c :: before, after)

end DocumentPipeline.Text
