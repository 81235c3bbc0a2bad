import DegreeAudit.CommandLine.Inspection
import DegreeAudit.Proofs.Page.Lines
import DegreeAudit.Proofs.Planner.Pasting
import DegreeAudit.Proofs.Storage.Loading

namespace DegreeAudit

/-!
# What is shown of a document is what is imported from it

The second program reads the cells of the rows as they were made of the words.  An import writes the
rows as a text and reads its lines.  Both read the same of every row, so the rows that are shown
with a course give the courses that are imported, of equal codes the first, and all other rows are
lines that are skipped.  Credits are compared as they are read; the line that is shown has them in
their short form.
-/

namespace Transcript

/-- The name of the course of a row. -/
def Row.title (row : Row) : String :=
  if row.name.isEmpty then row.code else row.name

/-- The code, the name and the credits that are read of a row. -/
def Row.entry (row : Row) : String × String × Float :=
  (row.code, row.title, row.credits)

end Transcript

/-- The code, the name and the credits of a course. -/
def CourseData.entry (course : CourseData Float) : String × String × Float :=
  (course.code, course.name, course.credits)

namespace CommandLine
namespace Inspection

open Transcript (recognize? recognizedRows recognizedKeys readLines courses counts)

/-- What is read of a row on its own, under the usual gap. -/
def recognized? (row : WordRow Float) : Option Transcript.Row :=
  recognize? ((row.cells WordRow.usualGap).map String.toList)

/-- The line that shows a course, and the cell its credits stand in. -/
def courseLine (row : Transcript.Row) (index : Nat) : String :=
  "   => " ++ row.code ++ " / " ++ row.title ++ " / "
    ++ String.ofList (Number.shortText row.credits) ++ " credits (cell " ++ count index ++ ")"

/-- The line that shows that a row is passed over, and what was found of a course. -/
def passedOverLine (code : Option (List Char)) (credit : Option Transcript.CreditCell) : String :=
  "   => skipped (code=" ++ optional (fun code => Text.quote (String.ofList code)) code
    ++ ", credits="
    ++ optional (fun credit => String.ofList (Number.exactText credit.credits)) credit ++ ")"

/-- The rows that are shown give what is imported. -/
structure ShowsImport (rows : List (WordRow Float)) (shown : List String)
    (readings : List Transcript.Reading) : Prop where
  /-- All rows are shown, one after another. -/
  lines : shown = rows.flatMap fun row => rowLines (row.cells WordRow.usualGap) row
  /-- What is shown of a row ends with its course if one is read of it. -/
  course : forall row found, recognized? row = some found ->
    ∃ start index, rowLines (row.cells WordRow.usualGap) row
      = start ++ [courseLine found index, rule]
  /-- If none is, it ends with a line that says so. -/
  noCourse : forall row, recognized? row = none ->
    ∃ start code credit, rowLines (row.cells WordRow.usualGap) row
      = start ++ [passedOverLine code credit, rule]
  /-- The courses that are shown, but of equal codes the first, are those that are imported. -/
  courses : (Transcript.courses readings).map CourseData.entry
    = ((rows.filterMap recognized?).eraseDupsBy Transcript.Row.sameKey).map Transcript.Row.entry
  /-- Each row is a line that is read, and it adds a course just if it is shown with one and no row
  before it is shown with the same code.  Otherwise the line is skipped. -/
  each : forall before row after, rows = before ++ row :: after ->
    ∃ reading, readings[before.length]? = some reading
      ∧ (reading.course?.isSome = true
        ↔ ∃ found, recognized? row = some found
          ∧ forall other, other ∈ before -> forall earlier, recognized? other = some earlier ->
            normalizeCode earlier.code ≠ normalizeCode found.code)
  /-- There are no other lines. -/
  counts : Transcript.counts readings = {
    lines := rows.length
    added := (Transcript.courses readings).length
    skipped := rows.length - (Transcript.courses readings).length
  }

section Lines

/-! ## The lines of a row -/

variable {cells : List String}

theorem title_ofList (code name : List Char) (credits : Float) :
    (Transcript.Row.mk (String.ofList code) (String.ofList name) credits).title
      = String.ofList (if name.isEmpty then code else name) := by
  have empty : (String.ofList name).isEmpty = name.isEmpty := by
    cases name <;> simp
  rw [Transcript.Row.title, empty, apply_ite String.ofList]

theorem readingLine_of_recognized {row : Transcript.Row}
    (found : recognize? (cells.map String.toList) = some row) :
    ∃ index, readingLine cells = courseLine row index := by
  rcases Transcript.recognize?_eq_some_iff.mp found with
    ⟨code, credit, codeFound, creditFound, rfl⟩
  refine ⟨credit.index, ?_⟩
  unfold readingLine courseLine
  rw [title_ofList]
  dsimp only
  rw [codeFound, creditFound]
  rfl

theorem readingLine_of_unrecognized (none : recognize? (cells.map String.toList) = none) :
    ∃ code credit, readingLine cells = passedOverLine code credit := by
  refine ⟨Transcript.findCode? (cells.map String.toList),
    Transcript.findCredits? (cells.map String.toList), ?_⟩
  unfold recognize? at none
  split at none
  · cases none
  · rename_i incomplete
    unfold readingLine passedOverLine
    dsimp only
    split
    · rename_i code credit codeFound creditFound
      exact absurd creditFound (incomplete code credit codeFound)
    · rfl

theorem rowLines_eq (cells : List String) (row : WordRow Float) :
    ∃ start, rowLines cells row = start ++ [readingLine cells, rule] :=
  ⟨_, rfl⟩

theorem showRows_eq (gap : Float) (rows : List (WordRow Float)) :
    showRows none (some gap) rows
      = ⟨rows.flatMap fun row => rowLines (row.cells gap) row, none⟩ := by
  induction rows with
  | nil => rfl
  | cons row rows inductionHypothesis =>
      unfold showRows
      rw [inductionHypothesis]
      rfl

end Lines

section Rows

/-! ## Rows that are imported -/

variable {rows : List (WordRow Float)}

/-- The line of a row in the text that is imported. -/
def lineOf (row : WordRow Float) : List Char :=
  (row.line WordRow.usualGap).toList

/-- The line of a row is read as the row is. -/
theorem recognize?_lineOf {row : WordRow Float} (whole : row.IsWhole) :
    recognize? (Transcript.cells (lineOf row)) = recognized? row := by
  rw [lineOf, whole.cells_line, recognized?]

/-- The text of rows is read row by row. -/
theorem read_text (whole : forall row, row ∈ rows -> row.IsWhole) (track : Option Track) :
    Transcript.read track [] (WordRow.text WordRow.usualGap rows).toList
      = readLines track [] (rows.map lineOf) := by
  rw [Transcript.read, WordRow.lines_text whole]
  rfl

theorem recognizedRows_lines (whole : forall row, row ∈ rows -> row.IsWhole) :
    recognizedRows (rows.map lineOf) = rows.filterMap recognized? := by
  rw [recognizedRows, List.filterMap_map]
  apply List.filterMap_congr
  intro row member
  rw [Function.comp_apply, recognize?_lineOf (whole row member)]

theorem mem_recognizedKeys_lines (whole : forall row, row ∈ rows -> row.IsWhole) {key : String} :
    key ∈ recognizedKeys (rows.map lineOf)
      ↔ ∃ row, row ∈ rows ∧ ∃ found, recognized? row = some found
        ∧ normalizeCode found.code = key := by
  rw [Transcript.mem_recognizedKeys_iff]
  constructor
  · rintro ⟨line, member, found, recognized, same⟩
    rcases List.mem_map.mp member with ⟨row, listed, rfl⟩
    rw [recognize?_lineOf (whole row listed)] at recognized
    exact ⟨row, listed, found, recognized, same⟩
  · rintro ⟨row, listed, found, recognized, same⟩
    refine ⟨_, List.mem_map_of_mem listed, found, ?_, same⟩
    rw [recognize?_lineOf (whole row listed)]
    exact recognized

/-- A row in its place adds a course if no row before it is shown with the same code. -/
theorem reading_of_row {before after : List (WordRow Float)} {row : WordRow Float}
    (whole : forall other, other ∈ before ++ row :: after -> other.IsWhole)
    (track : Option Track) :
    ∃ reading, (readLines track [] ((before ++ row :: after).map lineOf))[before.length]?
        = some reading
      ∧ (reading.course?.isSome = true
        ↔ ∃ found, recognized? row = some found
          ∧ forall other, other ∈ before -> forall earlier, recognized? other = some earlier ->
            normalizeCode earlier.code ≠ normalizeCode found.code) := by
  have here := whole row (List.mem_append_right before List.mem_cons_self)
  have above (other : WordRow Float) (member : other ∈ before) : other.IsWhole :=
    whole other (List.mem_append_left _ member)
  rcases Transcript.reading_at track [] (before.map lineOf) (lineOf row) (after.map lineOf) with
    ⟨reading, place, adds⟩
  rw [List.length_map] at place
  rw [List.map_append, List.map_cons]
  refine ⟨reading, place, adds.trans (exists_congr fun found => ?_)⟩
  rw [recognize?_lineOf here, mem_recognizedKeys_lines above]
  refine and_congr_right fun _ => ?_
  constructor
  · rintro ⟨_, new⟩ other member earlier recognized same
    exact new ⟨other, member, earlier, recognized, same⟩
  · intro new
    refine ⟨List.not_mem_nil, ?_⟩
    rintro ⟨other, member, earlier, recognized, same⟩
    exact new other member earlier recognized same

theorem showsImport (whole : forall row, row ∈ rows -> row.IsWhole) (track : Option Track) :
    ShowsImport rows (rows.flatMap fun row => rowLines (row.cells WordRow.usualGap) row)
      (Transcript.read track [] (WordRow.text WordRow.usualGap rows).toList) := by
  rw [read_text whole]
  constructor
  case lines => rfl
  case course =>
    intro row found recognized
    rcases readingLine_of_recognized recognized with ⟨index, line⟩
    rcases rowLines_eq (row.cells WordRow.usualGap) row with ⟨start, shown⟩
    exact ⟨start, index, by rw [shown, line]⟩
  case noCourse =>
    intro row none
    rcases readingLine_of_unrecognized none with ⟨code, credit, line⟩
    rcases rowLines_eq (row.cells WordRow.usualGap) row with ⟨start, shown⟩
    exact ⟨start, code, credit, by rw [shown, line]⟩
  case courses =>
    rw [Transcript.courses_readLines, recognizedRows_lines whole, List.map_map]
    have all : (rows.filterMap recognized?).filter (fun row =>
        decide (normalizeCode row.code ∉ [])) = rows.filterMap recognized? :=
      List.filter_eq_self.mpr fun row _ => by simp
    rw [all]
    rfl
  case each =>
    rintro before row after rfl
    exact reading_of_row whole track
  case counts =>
    rw [Transcript.counts_eq, Transcript.length_readLines, List.length_map]

end Rows

section Programs

/-! ## The two programs -/

/-- A document with pages is imported from its text. -/
theorem readPages_of_rows {files : FileTree} {path : Path} {pages : Pages}
    (there : files.read path = .ok (.pages pages)) :
    (forall mismatch, pages.rows .empty WordRow.usualTolerance = .error mismatch ->
      readPages files path = .error (.pages mismatch))
    ∧ forall rows, pages.rows .empty WordRow.usualTolerance = .ok rows ->
      readPages files path = .ok (WordRow.text WordRow.usualGap rows, rows.length) := by
  unfold readPages
  rw [there]
  dsimp only
  constructor
  · intro mismatch failed
    rw [failed]
  · intro rows made
    rw [made]

/-- Without a pattern the rows of the pages that are asked for are shown. -/
theorem showing_eq {wish : Wish} {files : FileTree} {pages : Pages}
    (unfiltered : wish.pattern = none)
    (there : files.read (Path.read wish.file) = .ok (.pages pages)) :
    wish.showing files
      = match pages.rows wish.pages WordRow.usualTolerance with
        | .error mismatch => ⟨[], some (.pages mismatch)⟩
        | .ok rows => showRows none wish.gap rows := by
  have found : rowsAt files (Path.read wish.file) wish.pages
      = (pages.rows wish.pages WordRow.usualTolerance).mapError .pages := by
    unfold rowsAt
    rw [there]
  unfold Wish.showing Wish.search?
  dsimp only
  rw [StateFile.hasNode_of_read there, unfiltered, found]
  cases pages.rows wish.pages WordRow.usualTolerance <;> rfl

/-- All rows are shown, under the usual gap, if the wish says nothing else. -/
theorem showing_of_rows {wish : Wish} {files : FileTree} {pages : Pages}
    (all : wish.pages = .empty) (unfiltered : wish.pattern = none)
    (usual : wish.gap = some WordRow.usualGap)
    (there : files.read (Path.read wish.file) = .ok (.pages pages)) :
    (forall mismatch, pages.rows .empty WordRow.usualTolerance = .error mismatch ->
      wish.showing files = ⟨[], some (.pages mismatch)⟩)
    ∧ forall rows, pages.rows .empty WordRow.usualTolerance = .ok rows ->
      wish.showing files
        = ⟨rows.flatMap fun row => rowLines (row.cells WordRow.usualGap) row, none⟩ := by
  rw [showing_eq unfiltered there, all, usual]
  constructor
  · intro mismatch failed
    rw [failed]
  · intro rows made
    rw [made]
    exact showRows_eq WordRow.usualGap rows

theorem run_of_wish {arguments : List String} {wish : Wish}
    (read : Wish.read arguments = .ok wish) (files : FileTree) (ids : IdSupply) :
    (run arguments files ids).shown = (wish.showing files).lines
      ∧ (run arguments files ids).ending
        = match (wish.showing files).failure with
          | some failure => .raised failure
          | none => .finished := by
  unfold run
  rw [read]
  exact ⟨rfl, rfl⟩

/-- Into a state without courses all courses of a text are imported. -/
theorem entries_importPaste {requirements : Option (Requirements Float)} {text : String}
    {state : PlannerState} {ids : IdSupply} {imported : Planner.PasteResult}
    (empty : state.courses = [])
    (done : (Planner.importPaste requirements text state ids).result = .ok imported) :
    ∃ track, imported.courses.map (fun course => course.toCourseData.entry)
      = (Transcript.courses (Transcript.read track [] text.toList)).map CourseData.entry := by
  cases active : Planner.activeTrack requirements state with
  | error failure =>
      rw [Planner.importPaste_of_failed active] at done
      cases done
  | ok track =>
      rw [Planner.importPaste_of_active active, empty] at done
      rcases Except.ok.inj done with rfl
      have data := Planner.data_assign ids (Transcript.courses (Planner.pasted track [] text))
      exact ⟨track, List.map_map.symm.trans (congrArg (List.map CourseData.entry) data)⟩

/-- The second program, if it is asked for all rows under the usual gap, shows what an import reads
of the same document, or both fail for the same reason.  Into a state without courses just the
courses that it shows are imported, but of equal codes the first. -/
theorem run_showsImport {arguments : List String} {wish : Wish}
    (read : Wish.read arguments = .ok wish) (all : wish.pages = .empty)
    (unfiltered : wish.pattern = none) (usual : wish.gap = some WordRow.usualGap)
    {files : FileTree} {pages : Pages}
    (there : files.read (Path.read wish.file) = .ok (.pages pages)) (unbroken : pages.Unbroken)
    (ids : IdSupply) :
    let result := run arguments files ids
    (forall mismatch, pages.rows .empty WordRow.usualTolerance = .error mismatch ->
      result.ending = .raised (.pages mismatch)
        ∧ result.shown = []
        ∧ readPages files (Path.read wish.file) = .error (.pages mismatch))
    ∧ (forall rows, pages.rows .empty WordRow.usualTolerance = .ok rows ->
      ∃ text, readPages files (Path.read wish.file) = .ok (text, rows.length)
        ∧ result.ending = .finished
        ∧ (forall track,
          ShowsImport rows result.shown (Transcript.read track [] text.toList))
        ∧ forall requirements state newIds imported, state.courses = [] ->
          (Planner.importPaste requirements text state newIds).result = .ok imported ->
          imported.courses.map (fun course => course.toCourseData.entry)
            = ((rows.filterMap recognized?).eraseDupsBy Transcript.Row.sameKey).map
              Transcript.Row.entry)
    ∧ (pages.Readable -> ∃ rows, pages.rows .empty WordRow.usualTolerance = .ok rows) := by
  intro result
  rcases run_of_wish read files ids with ⟨shown, ending⟩
  rcases readPages_of_rows there with ⟨importFails, imports⟩
  rcases showing_of_rows all unfiltered usual there with ⟨showingFails, shows⟩
  refine ⟨?_, ?_, Pages.exists_rowsFrom⟩
  · intro mismatch failed
    rw [showingFails mismatch failed] at shown ending
    exact ⟨ending, shown, importFails mismatch failed⟩
  · intro rows made
    rw [shows rows made] at shown ending
    have whole := Pages.isWhole_of_mem_rowsFrom unbroken made
    refine ⟨_, imports rows made, ending, ?_, ?_⟩
    · intro track
      rw [shown]
      exact showsImport whole track
    · intro requirements state newIds imported empty done
      rcases entries_importPaste empty done with ⟨track, same⟩
      rw [same]
      exact (showsImport whole track).courses

/-- A directory with one document. -/
def scanTree : FileTree :=
  {
    working := ["home"]
    nodes :=
      [(["home"], .directory), (["home", "scan.pdf"], .file (.pages Pages.termPages))]
  }

theorem run_showsImport_scanTree :
    let result := run ["scan.pdf", "--grep="] scanTree (IdSupply.random 0)
    ∃ wish rows text, Wish.read ["scan.pdf", "--grep="] = .ok wish
      ∧ Pages.termPages.Unbroken
      ∧ Pages.termPages.rows .empty WordRow.usualTolerance = .ok rows
      ∧ readPages scanTree (Path.read wish.file) = .ok (text, rows.length)
      ∧ result.ending = .finished
      ∧ ShowsImport rows result.shown (Transcript.read none [] text.toList) := by
  have unbroken : Pages.termPages.Unbroken := by decide +kernel
  have read : Wish.read ["scan.pdf", "--grep="]
      = .ok ⟨"scan.pdf", .empty, none, some WordRow.usualGap⟩ := by
    with_unfolding_all rfl
  have there : scanTree.read (Path.read "scan.pdf") = .ok (.pages Pages.termPages) := by
    with_unfolding_all rfl
  rcases run_showsImport read rfl rfl rfl there unbroken (IdSupply.random 0) with
    ⟨_, shows, answered⟩
  rcases answered Pages.readable_termPages with ⟨rows, made⟩
  rcases shows rows made with ⟨text, imported, finished, agree, _⟩
  exact ⟨_, rows, text, read, unbroken, made, imported, finished, agree none⟩

end Programs

end Inspection
end CommandLine
end DegreeAudit
