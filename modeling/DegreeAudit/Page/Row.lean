import DegreeAudit.Page.Word
import DegreeAudit.Text.Split

namespace DegreeAudit

/-!
The rows of a table on a page. Words belong to one row if they begin at the same height, up to a
tolerance from the first of them, and to one cell if the gap between neighbours is not too wide.
-/

/-- A row of words from left to right, at the height of the highest. -/
structure WordRow (κ : Type) where
  page : Int
  y : κ
  words : List (Word κ)
  deriving DecidableEq, Repr

variable {κ : Type} [Sub κ] [LE κ] [DecidableLE κ] [LT κ] [DecidableLT κ]

/-- Whether a word does not begin to the right of another. -/
def Word.isLeftOf (a b : Word κ) : Bool :=
  a.left <= b.left

namespace WordRow

/-- How far two coordinates are apart. -/
def distance (a b : κ) : κ :=
  if a <= b then b - a else a - b

/-- Whether a word stands at the height of another, up to a tolerance. -/
def sameHeight (tolerance : κ) (first word : Word κ) : Bool :=
  !(tolerance < distance word.top first.top)

/-- Words from the top down, cut wherever one is no longer at the height of the first since the
last cut. -/
def gather (tolerance : κ) : List (Word κ) -> List (List (Word κ))
  | [] => []
  | first :: words =>
      (first :: words.takeWhile (sameHeight tolerance first))
        :: gather tolerance (words.dropWhile (sameHeight tolerance first))
termination_by words => words.length
decreasing_by
  have shorter :=
    (List.dropWhile_suffix (l := words) (sameHeight tolerance first)).length_le
  simp only [List.length_cons]
  omega

/-- The row of words that were gathered, unless there are none. -/
def ofGathered? (page : Int) : List (Word κ) -> Option (WordRow κ)
  | [] => none
  | first :: words =>
      some { page, y := first.top, words := (first :: words).mergeSort Word.isLeftOf }

/-- The rows of words that come from the top down. -/
def ofSorted (page : Int) (tolerance : κ) (words : List (Word κ)) : List (WordRow κ) :=
  (gather tolerance words).filterMap (ofGathered? page)

/-- The rows of the words on a page of a document. The place of every word is read and the words are
sorted before any text is looked at, so blank words are sorted with the others. -/
def ofDocument (page : Int) (tolerance : Float) (entries : List Json) :
    Except Json.Mismatch (List (WordRow Float)) := do
  let words <- entries.mapM PlacedWord.ofEntry
  let found <- (words.mergeSort PlacedWord.comesBefore).mapM PlacedWord.read?
  pure (ofSorted page tolerance (found.filterMap id))

/-- Whether two neighbours stand in one cell. -/
def sameCell (gap : κ) (a b : Word κ) : Bool :=
  !(gap < b.left - a.right)

/-- The texts of the cells of a row: neighbours in one cell have a space between them. -/
def cells (gap : κ) (row : WordRow κ) : List String :=
  (row.words.splitBy (sameCell gap)).map fun words =>
    Text.joinStrings " " (words.map fun word => word.text)

/-- The row as a line with a tab between cells. -/
def line (gap : κ) (row : WordRow κ) : String :=
  Text.joinStrings "\t" (row.cells gap)

/-- Rows as lines of a text. -/
def text (gap : κ) (rows : List (WordRow κ)) : String :=
  Text.joinStrings "\n" (rows.map (line gap))

/-- The tolerance of a row. -/
def usualTolerance : Float := 3.2

/-- The widest gap inside a cell. -/
def usualGap : Float := 6.0

end WordRow
end DegreeAudit
