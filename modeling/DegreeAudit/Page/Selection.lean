import DegreeAudit.Number.Reader
import DegreeAudit.Text.Split

namespace DegreeAudit

/-!
A selection of pages, written as numbers and ranges with commas between them. Parts that cannot be
read are passed over, and where nothing is selected all pages are.
-/

/-- Ranges of page numbers with both ends included. -/
structure PageSelection where
  ranges : List (Int × Int)
  deriving DecidableEq, Repr

namespace PageSelection

/-- No selection. -/
def empty : PageSelection := ⟨[]⟩

/-- The selection of some pages. -/
def ofPages (pages : List Int) : PageSelection :=
  ⟨pages.map fun page => (page, page)⟩

/-- Whether a page is on the selection. -/
def contains (selection : PageSelection) (page : Int) : Bool :=
  selection.ranges.any fun (first, last) => first <= page && page <= last

/-- Whether a page is to be shown. -/
def shows (selection : PageSelection) (page : Int) : Bool :=
  selection.ranges.isEmpty || selection.contains page

/-- The range that a part of a selection writes, its ends in either order. -/
def readRange? (part : List Char) : Option (Int × Int) := do
  let (left, right) := Text.cutAt '-' (Text.trim part)
  let first <- Number.readInt? left
  let last <-
    match right with
    | none | some [] => some first
    | some right => Number.readInt? right
  pure (min first last, max first last)

/-- The selection that a text writes. -/
def read (text : List Char) : PageSelection :=
  ⟨(Text.splitOn ',' text).filterMap readRange?⟩

/-- The pages of a range from the first on. -/
def pagesOf (range : Int × Int) : List Int :=
  (List.range (range.2 - range.1 + 1).toNat).map fun offset => range.1 + Int.ofNat offset

/-- A page before others that are in ascending order, unless it is the first of them. -/
def withPage (page : Int) (others : List Int) : List Int :=
  if others.head? = some page then others else page :: others

/-- The pages of a selection, each once, in ascending order. -/
def pages (selection : PageSelection) : List Int :=
  (selection.ranges.flatMap pagesOf).mergeSort.foldr withPage []

end PageSelection
end DegreeAudit
