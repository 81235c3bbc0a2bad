import DegreeAudit.Page.Row
import DegreeAudit.Page.Selection

namespace DegreeAudit

/-!
The rows of a document of several pages. A page is the list of its words, or nothing if no words
were found on it; pages are counted from one.
-/

/-- The pages of a document. -/
abbrev Pages := List (Option (List Json))

namespace Pages

/-- The rows of the selected pages, of which the first has a number. -/
def rowsFrom (selection : PageSelection) (tolerance : Float) :
    (number : Nat) -> Pages -> Except Json.Mismatch (List (WordRow Float))
  | _, [] => .ok []
  | number, page :: pages => do
      let rows <-
        if selection.shows (Int.ofNat number) then
          WordRow.ofDocument (Int.ofNat number) tolerance (page.getD [])
        else pure []
      let others <- rowsFrom selection tolerance (number + 1) pages
      pure (rows ++ others)

/-- The rows of the selected pages. -/
def rows (selection : PageSelection) (tolerance : Float) (pages : Pages) :
    Except Json.Mismatch (List (WordRow Float)) :=
  rowsFrom selection tolerance 1 pages

end Pages
end DegreeAudit
