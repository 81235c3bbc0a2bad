import DegreeAudit.Page.Extraction
import DegreeAudit.Proofs.Page.Rows
import DegreeAudit.Proofs.Transcript.Cells
import Mathlib.Data.List.SplitBy

namespace DegreeAudit

/-!
# Rows that are read back from their lines

A row is written as a line with tabs between its cells and single spaces between the words of a
cell.  If no word has a blank inside, the line is cut into just these cells, also where there is
only one and the line has no tab.  So whoever reads the text of a document with pages sees the rows
and cells that were made of its words, whatever the tolerance and the gap are.
-/

open Transcript (IsWord IsCell IsNarrow)

variable {κ : Type}

namespace WordRow

/-- A row as it is made of the words on a page: it has words, and each is a text without blanks. -/
structure IsWhole (row : WordRow κ) : Prop where
  present : row.words ≠ []
  word : forall word, word ∈ row.words -> IsWord word.text.toList

theorem isWhole_of_mem_ofSorted [Sub κ] [LE κ] [DecidableLE κ] [LT κ] [DecidableLT κ] {page : Int}
    {tolerance : κ} {words : List (Word κ)} {row : WordRow κ}
    (made : row ∈ ofSorted page tolerance words)
    (whole : forall word, word ∈ words -> IsWord word.text.toList) : row.IsWhole where
  present := (words_of_mem_ofSorted made).1
  word word member := whole word ((words_of_mem_ofSorted made).2 word member)

section Reading

/-! ## Lines read again -/

variable [Sub κ] [LT κ] [DecidableLT κ] {gap : κ} {row : WordRow κ} {rows : List (WordRow κ)}

/-- A cell is made of words that stand together, with a space between neighbours. -/
theorem exists_words_of_mem_cells {cell : String} (made : cell ∈ row.cells gap) :
    ∃ words, words ∈ row.words.splitBy (sameCell gap)
      ∧ cell.toList = Text.join [' '] (words.map fun word => word.text.toList) := by
  rcases List.mem_map.mp made with ⟨words, together, rfl⟩
  refine ⟨words, together, ?_⟩
  rw [Text.joinStrings, String.toList_ofList, List.map_map]
  rfl

theorem IsWhole.word_of_mem_splitBy (whole : row.IsWhole) {words : List (Word κ)}
    (together : words ∈ row.words.splitBy (sameCell gap)) :
    forall text, text ∈ words.map (fun word => word.text.toList) -> IsWord text := by
  intro text member
  rcases List.mem_map.mp member with ⟨word, inside, rfl⟩
  apply whole.word word
  rw [← List.flatten_splitBy (sameCell gap) row.words]
  exact List.mem_flatten.mpr ⟨words, together, inside⟩

theorem IsWhole.isCell (whole : row.IsWhole) :
    forall cell, cell ∈ (row.cells gap).map String.toList -> IsCell cell ∧ IsNarrow cell := by
  intro cell member
  rcases List.mem_map.mp member with ⟨text, made, rfl⟩
  rcases exists_words_of_mem_cells made with ⟨words, together, joined⟩
  have each := whole.word_of_mem_splitBy together
  rw [joined]
  refine ⟨Transcript.isCell_join ?_ each, Transcript.isNarrow_join each⟩
  rw [ne_eq, List.map_eq_nil_iff]
  exact List.ne_nil_of_mem_splitBy together

theorem IsWhole.cells_ne_nil (whole : row.IsWhole) : (row.cells gap).map String.toList ≠ [] := by
  rw [ne_eq, List.map_eq_nil_iff, cells, List.map_eq_nil_iff, List.splitBy_eq_nil]
  exact whole.present

theorem toList_line (gap : κ) (row : WordRow κ) :
    (row.line gap).toList = Text.join ['\t'] ((row.cells gap).map String.toList) := by
  rw [line, Text.joinStrings, String.toList_ofList]
  rfl

/-- The line of a row is cut into the cells of the row. -/
theorem IsWhole.cells_line (whole : row.IsWhole) :
    Transcript.cells (row.line gap).toList = (row.cells gap).map String.toList := by
  rw [toList_line]
  exact Transcript.cells_join_of_narrow whole.cells_ne_nil
    (fun cell member => (whole.isCell cell member).1)
    fun cell member => (whole.isCell cell member).2

/-- The text of rows has the lines of the rows. -/
theorem lines_text (whole : forall row, row ∈ rows -> row.IsWhole) :
    Transcript.lines (text gap rows).toList = rows.map fun row => (row.line gap).toList := by
  have joined : (text gap rows).toList
      = Text.join ['\n'] (rows.map fun row => (row.line gap).toList) := by
    rw [text, Text.joinStrings, String.toList_ofList, List.map_map]
    rfl
  rw [joined]
  apply Transcript.lines_join
  intro line member
  rcases List.mem_map.mp member with ⟨row, listed, rfl⟩
  have here := whole row listed
  rw [toList_line]
  exact Transcript.isLine_join here.cells_ne_nil fun cell member => (here.isCell cell member).1

end Reading

end WordRow

section Documents

/-! ## Words of a document -/

namespace Word

/-- No blank stands inside the text of a word. -/
def Unbroken (word : Json) : Prop :=
  forall c, c ∈ textIn word -> Text.isBlank c = false

/-- A word is an object, and no side of the box around it is a whole number that is too large, nor
is there one with too many digits in its text.  Each may be missing or anything else. -/
def Readable (word : Json) : Prop :=
  ∃ entries, word = .object entries
    ∧ (forall key, key ∈ boxKeys -> forall value, Json.lookup key entries = some value ->
      ¬ value.TooLarge)
    ∧ forall value, Json.lookup "text" entries = some value -> ¬ value.HoldsOverlong

instance (word : Json) : Decidable (Unbroken word) :=
  List.decidableBAll _ _

/-- What is read of a word is its text, unless that is empty. -/
theorem isWord_of_read? {json : Json} {word : Word Float} (read : read? json = .ok (some word))
    (unbroken : Unbroken json) : IsWord word.text.toList := by
  rcases describes_of_read? read with ⟨visible, describes⟩
  rw [<- textIn_of_readText describes.text]
  exact ⟨textIn_ne_nil_of_isVisible visible, unbroken⟩

theorem exists_read? {json : Json} (readable : Readable json) : ∃ word, read? json = .ok word := by
  rcases readable with ⟨entries, rfl, fits, written⟩
  refine exists_read?_of_not_overflows ?_ ?_
  · rw [not_overflows_iff]
    exact fun key listed => fits key (sidesRead_subset _ listed)
  · rintro ⟨value, found, overlong⟩
    exact written value (Except.ok.inj found) overlong

theorem readable_of_isModerate {entries : List (String × Json)}
    (moderate : Json.isModerate (.object entries) = true) : Readable (.object entries) := by
  refine ⟨entries, rfl, fun key _ value found large => ?_, fun value found => ?_⟩
  · have fits := Json.isModerate_of_lookup moderate found
    cases value with
    | int number => simp [Json.isModerate, show Number.IsTooLarge number from large] at fits
    | _ => exact large
  · exact Json.not_holdsOverlong_of_isModerate (Json.isModerate_of_lookup moderate found)

end Word

namespace Pages

/-- No word in a document with pages has a blank inside. -/
def Unbroken (pages : Pages) : Prop :=
  forall page, page ∈ pages -> forall word, word ∈ page.getD [] -> Word.Unbroken word

/-- All words in a document with pages can be read. -/
def Readable (pages : Pages) : Prop :=
  forall page, page ∈ pages -> forall word, word ∈ page.getD [] -> Word.Readable word

/-- The rows of one page, if it is to be shown. -/
def rowsOn (selection : PageSelection) (tolerance : Float) (number : Nat)
    (page : Option (List Json)) : Except Json.Mismatch (List (WordRow Float)) :=
  if selection.shows (Int.ofNat number) then
    WordRow.ofDocument (Int.ofNat number) tolerance (page.getD [])
  else .ok []

instance (pages : Pages) : Decidable pages.Unbroken :=
  inferInstanceAs
    (Decidable (forall page, page ∈ pages -> forall word, word ∈ page.getD [] ->
      Word.Unbroken word))

variable {selection : PageSelection} {tolerance : Float} {number : Nat}

theorem rowsFrom_cons (page : Option (List Json)) (pages : Pages) :
    rowsFrom selection tolerance number (page :: pages)
      = rowsOn selection tolerance number page >>= fun here =>
        rowsFrom selection tolerance (number + 1) pages >>= fun others => .ok (here ++ others) := by
  rw [rowsFrom, rowsOn]
  split
  · rfl
  · rfl

theorem isWhole_of_mem_rowsOn {page : Option (List Json)} {rows : List (WordRow Float)}
    (unbroken : forall word, word ∈ page.getD [] -> Word.Unbroken word)
    (read : rowsOn selection tolerance number page = .ok rows) :
    forall row, row ∈ rows -> row.IsWhole := by
  unfold rowsOn at read
  split at read
  · rcases WordRow.exists_words_of_ofDocument read with ⟨words, rfl, ofPage⟩
    intro row made
    refine WordRow.isWhole_of_mem_ofSorted made fun word member => ?_
    rcases ofPage word member with ⟨json, listed, here⟩
    exact Word.isWord_of_read? here (unbroken json listed)
  · rcases Except.ok.inj read with rfl
    exact nofun

theorem exists_rowsOn {page : Option (List Json)}
    (readable : forall word, word ∈ page.getD [] -> Word.Readable word) :
    ∃ rows, rowsOn selection tolerance number page = .ok rows := by
  unfold rowsOn
  split
  · exact WordRow.exists_ofDocument_iff.mpr fun word member =>
      Word.exists_read? (readable word member)
  · exact ⟨[], rfl⟩

theorem isWhole_of_mem_rowsFrom {pages : Pages} {rows : List (WordRow Float)}
    (unbroken : pages.Unbroken) (read : rowsFrom selection tolerance number pages = .ok rows) :
    forall row, row ∈ rows -> row.IsWhole := by
  induction pages generalizing number rows with
  | nil =>
      rcases Except.ok.inj read with rfl
      exact nofun
  | cons page pages inductionHypothesis =>
      rw [rowsFrom_cons] at read
      rcases bind_eq_ok.mp read with ⟨here, readHere, read⟩
      rcases bind_eq_ok.mp read with ⟨others, readLater, read⟩
      rcases Except.ok.inj read with rfl
      have first := isWhole_of_mem_rowsOn (unbroken page List.mem_cons_self) readHere
      have later := inductionHypothesis
        (fun other member => unbroken other (List.mem_cons_of_mem page member)) readLater
      intro row member
      exact (List.mem_append.mp member).elim (first row) (later row)

theorem exists_rowsFrom {pages : Pages} (readable : pages.Readable) :
    ∃ rows, rowsFrom selection tolerance number pages = .ok rows := by
  induction pages generalizing number with
  | nil => exact ⟨[], rfl⟩
  | cons page pages inductionHypothesis =>
      rcases exists_rowsOn (readable page List.mem_cons_self) with ⟨here, readHere⟩
      rcases inductionHypothesis fun other member =>
        readable other (List.mem_cons_of_mem page member) with ⟨others, readLater⟩
      rw [rowsFrom_cons]
      exact ⟨_, bind_eq_ok.mpr ⟨here, readHere, bind_eq_ok.mpr ⟨others, readLater, rfl⟩⟩⟩

/-- A document with pages whose words have no blank inside is read back from its text: the lines of
the text are its rows, and the cells of each line are those of the row.  There are rows whenever the
words can be read. -/
theorem cells_lines_text {pages : Pages} (unbroken : pages.Unbroken) (selection : PageSelection)
    (tolerance gap : Float) :
    (forall rows, pages.rows selection tolerance = .ok rows ->
      (Transcript.lines (WordRow.text gap rows).toList).map Transcript.cells
        = rows.map fun row => (row.cells gap).map String.toList)
      ∧ (pages.Readable -> ∃ rows, pages.rows selection tolerance = .ok rows) := by
  constructor
  · intro rows read
    have whole := isWhole_of_mem_rowsFrom unbroken read
    rw [WordRow.lines_text whole, List.map_map]
    exact List.map_congr_left fun row member => (whole row member).cells_line
  · intro readable
    exact exists_rowsFrom readable

/-- A word in the box around it. -/
def boxed (text : String) (left right top : Float) : Json :=
  .object [("text", .string text), ("x0", .real left), ("x1", .real right), ("top", .real top)]

theorem readable_boxed (text : String) (left right top : Float) :
    Word.Readable (boxed text left right top) :=
  Word.readable_of_isModerate rfl

/-- A heading of one cell with two words, a row whose words are not in their order, a page without
words, and a page with a word that says nothing. -/
def termPages : Pages :=
  [
    some
      [
        boxed "Spring" 10 40 20, boxed " term " 44 60 20.5, boxed "3.0" 210 225 62,
        boxed "Calculus" 60 100 61, boxed "1" 104 108 61.5, boxed "BS101" 10 45 60
      ],
    none,
    some [boxed "" 0 0 0, boxed "End" 10 30 700]
  ]

theorem readable_termPages : termPages.Readable := by
  intro page member word listed
  simp only [termPages, List.mem_cons, List.not_mem_nil, or_false] at member
  rcases member with rfl | rfl | rfl
  · simp only [Option.getD_some, List.mem_cons, List.not_mem_nil, or_false] at listed
    rcases listed with rfl | rfl | rfl | rfl | rfl | rfl
    all_goals exact readable_boxed _ _ _ _
  · cases listed
  · simp only [Option.getD_some, List.mem_cons, List.not_mem_nil, or_false] at listed
    rcases listed with rfl | rfl
    all_goals exact readable_boxed _ _ _ _

theorem cells_lines_text_termPages :
    termPages.Unbroken
      ∧ termPages.Readable
      ∧ ∃ rows, termPages.rows .empty WordRow.usualTolerance = .ok rows
        ∧ (Transcript.lines (WordRow.text WordRow.usualGap rows).toList).map Transcript.cells
          = rows.map fun row => (row.cells WordRow.usualGap).map String.toList := by
  have unbroken : termPages.Unbroken := by decide +kernel
  rcases cells_lines_text unbroken .empty WordRow.usualTolerance WordRow.usualGap with
    ⟨readBack, answered⟩
  rcases answered readable_termPages with ⟨rows, read⟩
  exact ⟨unbroken, readable_termPages, rows, read, readBack rows read⟩

end Pages

end Documents
end DegreeAudit
