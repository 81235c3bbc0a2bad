import DegreeAudit.Proofs.CommandLine.Inspection
import DegreeAudit.Proofs.Page.Selection

namespace DegreeAudit
namespace CommandLine
namespace Inspection

/-!
# Which rows are shown

The second program can be asked for some pages only, by a text with numbers and ranges.  It then
reads these pages and no others, and shows what it would show of them among all pages: the rows that
stand on a page which the text selects, in the order of the document, or all rows if the text selects
no page.  A text selects what its parts do together.
-/

open PageSelection (WrittenRange readRange?)

/-- The rows on the pages that a text selects; all of them if it selects none. -/
def selectedRows (text : List Char) (rows : List (WordRow Float)) : List (WordRow Float) :=
  rows.filter fun row =>
    decide ((PageSelection.read text).pages = [] ∨ row.page ∈ (PageSelection.read text).pages)

theorem selectedRows_eq (text : List Char) (rows : List (WordRow Float)) :
    selectedRows text rows = rows.filter fun row => (PageSelection.read text).shows row.page := by
  apply List.filter_congr
  intro row _
  rw [Bool.eq_iff_iff, decide_eq_true_eq, PageSelection.shows_read_iff]

/-- If there are rows of all pages, the selected ones are shown. -/
theorem showing_of_selected {wish : Wish} {text : List Char} {gap : Float}
    (asked : wish.pages = PageSelection.read text) (unfiltered : wish.pattern = none)
    (given : wish.gap = some gap) {files : FileTree} {pages : Pages}
    (there : files.read (Path.read wish.file) = .ok (.pages pages)) {rows : List (WordRow Float)}
    (made : pages.rows .empty WordRow.usualTolerance = .ok rows) :
    wish.showing files
      = ⟨(selectedRows text rows).flatMap fun row => rowLines (row.cells gap) row, none⟩ := by
  have selected : pages.rows wish.pages WordRow.usualTolerance = .ok (selectedRows text rows) := by
    rw [asked, selectedRows_eq]
    exact Pages.rowsFrom_of_all made
  rw [showing_eq unfiltered there, selected, given]
  exact showRows_eq gap (selectedRows text rows)

/-- Two texts with a comma between them select together what each of them does; only the parts that
can be read count, in any order and number; and parts in digits select the intervals that they
write.  The second program, if it is asked for the pages of a text and for no pattern, shows those
rows of the document that stand on a selected page. -/
theorem run_showsSelected (first second : List Char) :
    (forall page, page ∈ (PageSelection.read (first ++ ',' :: second)).pages
      ↔ page ∈ (PageSelection.read first).pages ∨ page ∈ (PageSelection.read second).pages)
    ∧ ((forall part, (readRange? part).isSome = true ->
        (part ∈ Text.splitOn ',' first ↔ part ∈ Text.splitOn ',' second)) ->
      (PageSelection.read first).pages = (PageSelection.read second).pages)
    ∧ (forall ranges : List WrittenRange, (forall range, range ∈ ranges -> range.Fits) ->
      forall page,
        page ∈ (PageSelection.read (Text.join [','] (ranges.map WrittenRange.text))).pages
          ↔ ∃ range, range ∈ ranges ∧ page ∈ range.interval)
    ∧ forall arguments wish gap files pages ids, Wish.read arguments = .ok wish ->
      wish.pages = PageSelection.read first -> wish.pattern = none -> wish.gap = some gap ->
      files.read (Path.read wish.file) = .ok (.pages pages) ->
      (forall rows, pages.rows .empty WordRow.usualTolerance = .ok rows ->
        (run arguments files ids).shown
            = (selectedRows first rows).flatMap (fun row => rowLines (row.cells gap) row)
          ∧ (run arguments files ids).ending = .finished)
      ∧ (pages.Readable -> ∃ rows, pages.rows .empty WordRow.usualTolerance = .ok rows) := by
  refine ⟨fun _ => PageSelection.mem_pages_read_append_iff first second,
    PageSelection.pages_read_eq_of_parts,
    fun _ fits _ => PageSelection.mem_pages_read_join_iff fits, ?_⟩
  intro arguments wish gap files pages ids read asked unfiltered given there
  refine ⟨?_, Pages.exists_rowsFrom⟩
  intro rows made
  rcases run_of_wish read files ids with ⟨shown, ending⟩
  rw [showing_of_selected asked unfiltered given there made] at shown ending
  exact ⟨shown, ending⟩

/-- A page with a zero before it, and a range from its end to its beginning. -/
def writtenRanges : List WrittenRange := [⟨['0', '7'], none⟩, ⟨['4'], some ['2']⟩]

theorem fits_writtenRanges : forall range, range ∈ writtenRanges -> range.Fits := by
  have isPageNumber {digits : List Char} (present : digits ≠ [])
      (digit : digits.all Char.isDigit = true) (short : digits.length ≤ Number.mostDigits) :
      PageSelection.IsPageNumber digits :=
    ⟨present, List.all_eq_true.mp digit, short⟩
  intro range member
  simp only [writtenRanges, List.mem_cons, List.not_mem_nil, or_false] at member
  rcases member with rfl | rfl
  · exact ⟨isPageNumber (by decide) (by decide) (by decide), nofun⟩
  · refine ⟨isPageNumber (by decide) (by decide) (by decide), ?_⟩
    intro digits given
    rcases Option.some.inj given with rfl
    exact isPageNumber (by decide) (by decide) (by decide)

theorem run_showsSelected_lastPage :
    let result := run ["--pages=3,x", "scan.pdf"] scanTree (IdSupply.random 0)
    let first := ['3', ',', 'x']
    let second := [' ', 'x', ',', '3', ',', ',', '3']
    (forall page, page ∈ (PageSelection.read (first ++ ',' :: second)).pages
      ↔ page ∈ (PageSelection.read first).pages ∨ page ∈ (PageSelection.read second).pages)
    ∧ (PageSelection.read first).pages = (PageSelection.read second).pages
    ∧ (forall page,
      page ∈ (PageSelection.read (Text.join [','] (writtenRanges.map WrittenRange.text))).pages
        ↔ ∃ range, range ∈ writtenRanges ∧ page ∈ range.interval)
    ∧ ∃ rows, Pages.termPages.rows .empty WordRow.usualTolerance = .ok rows
      ∧ result.shown = (selectedRows first rows).flatMap
        (fun row => rowLines (row.cells WordRow.usualGap) row)
      ∧ result.ending = .finished := by
  intro result first second
  have same : forall part, (readRange? part).isSome = true ->
      (part ∈ Text.splitOn ',' first ↔ part ∈ Text.splitOn ',' second) := by
    have parts : Text.splitOn ',' first = [['3'], ['x']] := by decide
    have others : Text.splitOn ',' second = [[' ', 'x'], ['3'], [], ['3']] := by decide
    have unread : forall part, part ∈ [['x'], [' ', 'x'], []] -> readRange? part = none := by
      decide
    intro part readable
    have legible : part ≠ ['x'] ∧ part ≠ [' ', 'x'] ∧ part ≠ [] := by
      refine ⟨?_, ?_, ?_⟩
      all_goals
        rintro rfl
        rw [unread _ (by decide)] at readable
        cases readable
    simp [parts, others, legible]
  have read : Wish.read ["--pages=3,x", "scan.pdf"]
      = .ok ⟨"scan.pdf", PageSelection.read first, none, some WordRow.usualGap⟩ := by
    with_unfolding_all rfl
  have there : scanTree.read (Path.read "scan.pdf") = .ok (.pages Pages.termPages) := by
    with_unfolding_all rfl
  rcases run_showsSelected first second with ⟨joined, reordered, intervals, shows⟩
  rcases shows _ _ _ _ _ (IdSupply.random 0) read rfl rfl rfl there with ⟨selected, answered⟩
  rcases answered Pages.readable_termPages with ⟨rows, made⟩
  exact ⟨joined, reordered same, intervals writtenRanges fits_writtenRanges, rows, made,
    selected rows made⟩

end Inspection
end CommandLine
end DegreeAudit
