import DegreeAudit.Text.LetterCase

namespace DegreeAudit
namespace Text

/-!
All spellings of a letter that differ in case alone. They are found by going through the tables
backwards, so that a letter with several lower case forms, as sigma has, is known by each of them.
-/

/-- The code points that the rows of a table send to a code point. -/
def sourcesOf (rows : List (Nat × Nat × Nat × Nat)) (code : Nat) : List Nat :=
  rows.filterMap fun (first, last, step, image) =>
    if image <= code && code - image <= last - first && (code - image) % step == 0 then
      some (first + (code - image))
    else none

/-- The code points that have the same upper case as a lower case letter. -/
def lowerVariants (code : Nat) : List Nat :=
  match expansionOf upperExpansions code with
  | some images =>
      (upperExpansions.filter fun entry => entry.2 == images).map fun entry => entry.1
  | none => code :: sourcesOf upperRows (imageOf upperRows code)

/-- The code points of the letters that differ from a letter in case alone, or not at all. -/
def caseVariants (c : Char) : List Nat :=
  let lowers := lowerVariants (lowerLetter c).toNat
  lowers ++ lowers.flatMap (sourcesOf lowerRows)

end Text
end DegreeAudit
