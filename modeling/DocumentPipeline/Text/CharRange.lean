/-!
Sets of characters given by ranges of code points. The tables of such ranges are those of
Unicode 17.
-/
namespace DocumentPipeline.Text

/-- Whether a character is in one of the ranges, each given by its first and last code point. -/
def inRanges (ranges : List (Nat × Nat)) (c : Char) : Bool :=
  ranges.any fun (first, last) => first ≤ c.toNat && c.toNat ≤ last

end DocumentPipeline.Text
